import QueryVariants.Command.Run
import QueryVariants.Proofs.Distribution.Registries
import QueryVariants.Proofs.Json.Output

/-!
# Runs that fail

A session is atomic if it fails only before its first effect. A step without effects may come in front of an
atomic session, and behind one may come a step that cannot fail. All commands are made in this way: what can
fail comes first, except that a table is printed row by row, which cannot fail for a table that was read.
-/

namespace QueryVariants.Command

/-! ### Sessions -/

namespace Session

variable {α β : Type} {session : Session α} {next : α → Session β}

/-- A session that fails has no effects. -/
def Atomic (session : Session α) : Prop :=
  ∀ message, session.result = .error message → session.effects = []

/-- A session that does not fail. -/
def Certain (session : Session α) : Prop :=
  ∃ a, session.result = .ok a

theorem Certain.atomic (h : session.Certain) : session.Atomic := by
  obtain ⟨a, ha⟩ := h
  intro message herror
  rw [ha] at herror
  cases herror

theorem atomic_of_silent (h : session.effects = []) : session.Atomic :=
  fun _ _ => h

theorem bind_of_ok {a : α} (h : session.result = .ok a) :
    session >>= next = ⟨session.effects ++ (next a).effects, (next a).result⟩ := by
  change Session.bind session next = _
  rw [Session.bind, h]

theorem bind_of_error {message : String} (h : session.result = .error message) :
    session >>= next = ⟨session.effects, .error message⟩ := by
  change Session.bind session next = _
  rw [Session.bind, h]

/-- A step without effects in front of an atomic session. -/
theorem Atomic.bind_silent (h : session.effects = []) (hnext : ∀ a, session.result = .ok a → (next a).Atomic) :
    (session >>= next).Atomic := by
  intro message herror
  rcases hresult : session.result with failure | a
  · rw [bind_of_error hresult]
    exact h
  · rw [bind_of_ok hresult] at herror ⊢
    rw [h, List.nil_append]
    exact hnext a hresult message herror

/-- A step that cannot fail behind an atomic session. -/
theorem Atomic.bind_certain (h : session.Atomic) (hnext : ∀ a, session.result = .ok a → (next a).Certain) :
    (session >>= next).Atomic := by
  intro message herror
  rcases hresult : session.result with failure | a
  · rw [bind_of_error hresult]
    exact h failure hresult
  · obtain ⟨b, hb⟩ := hnext a hresult
    rw [bind_of_ok hresult, hb] at herror
    cases herror

theorem Certain.bind (h : session.Certain) (hnext : ∀ a, session.result = .ok a → (next a).Certain) :
    (session >>= next).Certain := by
  obtain ⟨a, ha⟩ := h
  obtain ⟨b, hb⟩ := hnext a ha
  rw [bind_of_ok ha]
  exact ⟨b, hb⟩

theorem certain_pure (a : α) : (pure a : Session α).Certain :=
  ⟨a, rfl⟩

theorem certain_perform (effect : Effect) : (perform effect).Certain :=
  ⟨(), rfl⟩

theorem certain_ofExcept {result : Except Error α} (h : ∃ a, result = .ok a) : (ofExcept result).Certain := by
  obtain ⟨a, rfl⟩ := h
  exact ⟨a, rfl⟩

theorem ok_of_ofExcept {result : Except Error α} {a : α} (h : (ofExcept result).result = .ok a) :
    result = .ok a := by
  cases result with
  | error error => cases h
  | ok b => rw [Except.ok.inj h]

end Session

/-! ### Commands -/

section

open Session

variable {tree : FileTree} {table : Table}

theorem certain_writeBatch (put : List UInt8 → Effect) (format : Output.Format)
    (queries : List GeneratedQuery) : (writeBatch put format queries).Certain := by
  rw [writeBatch, Output.write_unlimited]
  exact (certain_perform _).bind fun _ _ => certain_ofExcept ⟨(), rfl⟩

theorem atomic_createFile (path : String) : (createFile tree path).Atomic := by
  rw [createFile]
  split
  · exact atomic_of_silent rfl
  · exact ((certain_perform _).bind fun _ _ => certain_pure _).atomic

theorem atomic_runGenerate (options : GenerateOptions) : (runGenerate tree options).Atomic := by
  rw [runGenerate]
  refine .bind_silent rfl ?_
  rintro ⟨generator, seed, ids⟩ -
  dsimp only
  split
  · exact atomic_of_silent rfl
  · refine .bind_silent rfl ?_
    intro queries _
    split
    · exact (certain_writeBatch _ _ _).atomic
    · -- From here on nothing fails but to make the file.
      exact (atomic_createFile _).bind_certain fun _ _ =>
        (certain_writeBatch _ _ _).bind fun _ _ => certain_perform _

theorem atomic_runParse (source : String) (distributions : Option String) :
    (runParse tree source distributions).Atomic := by
  rw [runParse]
  refine .bind_silent rfl fun registry _ => .bind_silent rfl fun e _ => Certain.atomic ?_
  exact (certain_perform _).bind fun _ _ => (certain_perform _).bind fun _ _ => certain_perform _

/-- A table with rows of its own shape has all the cells and weights that are asked for. -/
theorem exists_tableRow (h : table.WellFormed) {row : Nat} (hrow : row < table.size) :
    ∃ cells, tableRow table row = .ok cells := by
  refine Result.exists_bind (Result.exists_mapM ?_) fun values =>
    Result.exists_bind (Result.exists_mapM ?_) fun weights => ⟨_, rfl⟩
  · intro field hfield
    exact Table.exists_cell h (List.mem_range.1 hfield) hrow
  · intro column hcolumn
    exact ⟨_, Table.weightAt_eq h (List.mem_range.1 hcolumn) hrow⟩

/-- What is made of each row of a table is made of all of them. -/
theorem exists_mapM_tableRow {α : Type} {render : Nat → List String × List Nat → Except Error α}
    (h : table.WellFormed) (hshow : ∀ row cells, ∃ shown, render row cells = .ok shown) :
    ∃ shown, (List.range table.size).mapM (fun row => tableRow table row >>= render row) = .ok shown := by
  apply Result.exists_mapM
  intro row hrow
  exact Result.exists_bind (exists_tableRow h (List.mem_range.1 hrow)) (hshow row)

theorem exists_tableGrid (h : table.WellFormed) : ∃ grid, tableGrid table = .ok grid :=
  Result.exists_bind (exists_mapM_tableRow h fun _ _ => ⟨_, rfl⟩) fun _ => ⟨_, rfl⟩

theorem exists_tableJson (h : table.WellFormed) : ∃ json, tableJson table = .ok json :=
  Result.exists_bind (exists_mapM_tableRow h fun _ _ => ⟨_, rfl⟩) fun _ => ⟨_, rfl⟩

theorem wellFormed_of_loadRegistry {distributions : Option String} {registry : Registry} {name : String}
    (hload : loadRegistry tree distributions = .ok registry)
    (hget : registry.get name = .ok table) : table.WellFormed := by
  have hparsed : registry.Parsed := by
    cases distributions with
    | none => exact Registry.parsed_of_bundled hload
    | some dir => exact Registry.parsed_of_withOverrides hload
  exact hparsed.wellFormed (Registry.find?_of_get hget)

/-- The heading of a table is printed before its rows are read, but they are read for sure. -/
theorem certain_printTable (h : table.WellFormed) (format : TableFormat) :
    (printTable table format).Certain := by
  cases format with
  | json => exact (certain_ofExcept (exists_tableJson h)).bind fun _ _ => certain_perform _
  | table =>
      exact (certain_perform _).bind fun _ _ => (certain_perform _).bind fun _ _ =>
        (certain_ofExcept (exists_tableGrid h)).bind fun _ _ => certain_perform _

theorem effects_findTable (registry : Registry) (name : String) : (findTable registry name).effects = [] := by
  rw [findTable]
  split <;> rfl

theorem get_of_findTable {registry : Registry} {name : String}
    (h : (findTable registry name).result = .ok table) : registry.get name = .ok table := by
  rw [findTable] at h
  split at h
  · cases h
  · rename_i found hfound
    rw [hfound, Except.ok.inj h]

theorem atomic_runDist (name : String) (distributions : Option String) (format : TableFormat) :
    (runDist tree name distributions format).Atomic := by
  rw [runDist]
  refine .bind_silent rfl fun registry hload => .bind_silent (effects_findTable _ _) fun table hfind => ?_
  have hwell : table.WellFormed := wellFormed_of_loadRegistry (ok_of_ofExcept hload) (get_of_findTable hfind)
  exact (certain_printTable hwell format).atomic

theorem atomic_execute (request : Request) : (execute tree request).Atomic := by
  cases request with
  | generate options => exact atomic_runGenerate options
  | parse source distributions => exact atomic_runParse source distributions
  | dist name distributions format => exact atomic_runDist name distributions format

end

/-! ### Runs -/

/-- An atomic session that fails only reports why. -/
theorem exists_effects_outcome {session : Session Unit} (h : session.Atomic) (hexit : session.outcome.exit ≠ 0) :
    ∃ text, session.outcome.effects = [.report text] := by
  rcases hresult : session.result with message | _
  · refine ⟨"Error: " ++ message ++ "\n", ?_⟩
    rw [Session.outcome, hresult]
    simp only [h message hresult, List.nil_append]
  · rw [Session.outcome, hresult] at hexit
    exact absurd rfl hexit

theorem exists_effects_refuse {refusal : Refusal} (hexit : (refuse refusal).exit ≠ 0) :
    ∃ text, (refuse refusal).effects = [.report text] := by
  cases refusal with
  | usage => exact ⟨usage, rfl⟩
  | help => exact absurd rfl hexit
  | version => exact absurd rfl hexit

/-- **A run that fails has no effect.** Whatever the arguments, the environment and the files are, a run with
an exit code other than zero does nothing but to report on standard error: nothing stands on standard output,
and all files are as they were. -/
theorem run_without_effect (tree : FileTree) (environment : Environment) (arguments : List String)
    (h : (run tree environment arguments).exit ≠ 0) :
    (∃ text, (run tree environment arguments).effects = [.report text]) ∧
      (run tree environment arguments).stdout = "" ∧
      (run tree environment arguments).files tree = tree := by
  have heffects : ∃ text, (run tree environment arguments).effects = [.report text] := by
    unfold run at h ⊢
    split at h
    · exact exists_effects_refuse h
    · exact exists_effects_outcome (atomic_execute _) h
  refine ⟨heffects, ?_, ?_⟩
  all_goals obtain ⟨text, heffects⟩ := heffects
  · rw [Outcome.stdout, heffects]
    change Text.markedText [] = ""
    rw [Text.markedText, Text.decodeMarked]
  · rw [Outcome.files, heffects]
    rfl

/-- A working directory in which a directory stands in the place of the configuration, and the output file has
been written before. -/
def brokenConfiguration : FileTree :=
  ((FileTree.ofCurrent ["work"]).put ["work", "dsqgen.toml"] .directory).put ["work", "out.sql"]
    (.file "select 1\n".toUTF8)

theorem run_without_effect_brokenConfiguration :
    (run brokenConfiguration [] ["generate", "--output", "out.sql"]).exit = 1 ∧
      (run brokenConfiguration [] ["generate", "--output", "out.sql"]).stdout = "" ∧
      (run brokenConfiguration [] ["generate", "--output", "out.sql"]).files brokenConfiguration =
        brokenConfiguration := by
  have hexit : (run brokenConfiguration [] ["generate", "--output", "out.sql"]).exit = 1 := by
    decide +kernel
  have hrun := run_without_effect brokenConfiguration [] ["generate", "--output", "out.sql"] (by rw [hexit]; decide)
  exact ⟨hexit, hrun.2⟩

end QueryVariants.Command
