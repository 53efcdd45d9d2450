import QueryVariants.Output.Sink
import QueryVariants.Proofs.Json.Reading

/-!
# The JSON output is read back

The array is written piece by piece, with a comma after each object but the last. Put together, the pieces
are the objects joined by a comma and a margin, which is the form of a sequence that the reader takes; the
objects themselves are the same form without a margin.
-/

namespace QueryVariants

open Text Json

namespace Output

/-! ### Pieces put together -/

theorem toList_loop (bytes : ByteArray) (i : Nat) (before : List UInt8) :
    ByteArray.toList.loop bytes i before = before.reverse ++ bytes.data.toList.drop i := by
  fun_induction ByteArray.toList.loop bytes i before with
  | case1 i before h ih =>
      have hi : i < bytes.data.toList.length := h
      rw [ih, List.reverse_cons, List.append_assoc, List.drop_eq_getElem_cons hi]
      simp [ByteArray.get!, h]
  | case2 i before h =>
      have hi : bytes.data.toList.length ≤ i := Nat.le_of_not_lt h
      rw [List.drop_eq_nil_of_le hi, List.append_nil]

theorem toList_eq_toList_data (bytes : ByteArray) : bytes.toList = bytes.data.toList := by
  rw [ByteArray.toList, toList_loop]
  rfl

theorem toList_toUTF8_append (s t : String) :
    (s ++ t).toUTF8.toList = s.toUTF8.toList ++ t.toUTF8.toList := by
  have happend : (s ++ t).toUTF8 = s.toUTF8 ++ t.toUTF8 := String.toByteArray_append
  rw [happend, toList_eq_toList_data, toList_eq_toList_data, toList_eq_toList_data, ByteArray.data_append,
    Array.toList_append]

theorem length_toList_toUTF8 (s : String) : s.toUTF8.toList.length = s.utf8ByteSize := by
  rw [toList_eq_toList_data]
  rfl

theorem Sink.writePieces_unlimited (pieces : List Piece) (written : List UInt8) :
    Sink.writePieces ⟨none, written⟩ pieces =
      (.ok (), ⟨none, written ++ (String.join (pieces.map Piece.text)).toUTF8.toList⟩) := by
  induction pieces generalizing written with
  | nil =>
      have hempty : (String.join []).toUTF8.toList = [] := toList_eq_toList_data _
      rw [List.map_nil, hempty, List.append_nil]
      rfl
  | cons piece pieces ih =>
      rw [List.map_cons, String.join_cons, toList_toUTF8_append, ← List.append_assoc, ← ih]
      rfl

/-- A place without limit takes the whole output. -/
theorem write_unlimited (format : Format) (queries : List GeneratedQuery) :
    format.write (.ofLimit none) queries = (.ok (), ⟨none, (format.text queries).toUTF8.toList⟩) :=
  Sink.writePieces_unlimited (format.pieces queries) []

/-- The array without the newline behind it. -/
def jsonDocument (queries : List GeneratedQuery) : String :=
  "[" ++ String.join (jsonItems queries) ++ (if queries.isEmpty then "" else "\n") ++ "]"

theorem text_json (queries : List GeneratedQuery) :
    Format.json.text queries = jsonDocument queries ++ "\n" := by
  have hpieces : (jsonPieces queries).map Piece.text =
      "[" :: jsonItems queries ++ if queries.isEmpty then ["]\n"] else ["\n", "]\n"] := by
    rw [jsonPieces, List.map_map]
    exact List.map_id _
  have hend : "]\n" = "]" ++ "\n" := rfl
  rw [Format.text, Format.pieces, hpieces, String.join_append, String.join_cons, jsonDocument, hend]
  split <;> simp [String.append_assoc]

/-! ### Objects -/

/-- What a reader of the output is to find for a query. -/
def asJson (generated : GeneratedQuery) : Json :=
  .object [
    ("query", .number generated.query 0),
    ("seed", .number generated.seed.toNat 0),
    ("sql", .string generated.sql)]

def margin : List Char :=
  ['\n', ' ', ' ']

def writtenObject (generated : GeneratedQuery) : List Char :=
  (jsonObject generated).compact.toList

/-- The members of an object in their written form, with what is read for each. -/
def writtenMembers (generated : GeneratedQuery) : List (List Char × String × Json) :=
  [((jsonString "query").toList ++ ':' :: natDigits generated.query, "query", .number generated.query 0),
   ((jsonString "seed").toList ++ ':' :: natDigits generated.seed.toNat,
    "seed", .number generated.seed.toNat 0),
   ((jsonString "sql").toList ++ ':' :: (jsonString generated.sql).toList, "sql", .string generated.sql)]

theorem writtenObject_eq (generated : GeneratedQuery) :
    writtenObject generated =
      '\x7b' :: (List.intercalate [','] ((writtenMembers generated).map Prod.fst) ++ ['\x7d']) := by
  simp [writtenObject, jsonObject, JsonValue.compact, JsonValue.compactMembers, writtenMembers, natDigits,
    String.toList_append]

theorem reads_writtenMembers {generated : GeneratedQuery} (depth : Nat) :
    ∀ m ∈ writtenMembers generated, Reads (member (value (depth + 1))) m.1 m.2 := by
  have hstring := opens_jsonString generated.sql []
  rw [List.append_nil] at hstring
  intro m hm
  simp only [writtenMembers, List.mem_cons, List.not_mem_nil, or_false] at hm
  rcases hm with rfl | rfl | rfl
  · exact reads_member (reads_natDigits depth _) (opens_natDigits _)
  · exact reads_member (reads_natDigits depth _) (opens_natDigits _)
  · exact reads_member (reads_jsonString depth _) hstring

theorem reads_writtenObject (depth : Nat) (generated : GeneratedQuery) :
    Reads (value (depth + 2)) (writtenObject generated) (asJson generated) := by
  intro c rest _
  have hopens : ∀ m ∈ writtenMembers generated, Opens m.1 := by
    intro m hm
    simp only [writtenMembers, List.mem_cons, List.not_mem_nil, or_false] at hm
    rcases hm with rfl | rfl | rfl <;> exact opens_jsonString _ _
  have hread : enclosed '\x7d' (member (value (depth + 1)))
      (List.intercalate [','] ((writtenMembers generated).map Prod.fst) ++ '\x7d' :: c :: rest) =
        some ((writtenMembers generated).map Prod.snd, c :: rest) :=
    enclosed_intercalate (List.cons_ne_nil _ _) (reads_writtenMembers depth) hopens
      (List.forall_mem_nil _) ⟨.inr rfl, .inl rfl⟩
  rw [writtenObject_eq, List.cons_append, List.append_assoc, List.singleton_append, value, hread]
  rfl

theorem opens_writtenObject (generated : GeneratedQuery) : Opens (writtenObject generated) := by
  refine ⟨'\x7b', _, writtenObject_eq generated, rfl, ?_⟩
  simp [endsValue]

/-! ### The array -/

theorem toList_join_jsonItems (generated : GeneratedQuery) (queries : List GeneratedQuery) :
    (String.join (jsonItems (generated :: queries))).toList =
      margin ++ List.intercalate (',' :: margin) ((generated :: queries).map writtenObject) := by
  induction queries generalizing generated with
  | nil => simp [jsonItems, margin, writtenObject, String.toList_append]
  | cons next queries ih =>
      rw [List.map_cons, List.map_cons, List.intercalate_cons_cons, ← List.map_cons, jsonItems]
      · simp only [String.join_cons, String.toList_append, ih, writtenObject]
        simp [margin]
      · exact List.cons_ne_nil next queries

theorem toList_jsonDocument {queries : List GeneratedQuery} (hne : queries ≠ []) :
    (jsonDocument queries).toList =
      '[' :: (margin ++ (List.intercalate (',' :: margin) (queries.map writtenObject) ++ ['\n', ']'])) := by
  obtain ⟨generated, others, rfl⟩ := List.exists_cons_of_ne_nil hne
  rw [jsonDocument, String.toList_append, String.toList_append, String.toList_append, toList_join_jsonItems]
  simp

/-- A place without limit takes one JSON document and a newline. A strict reader finds in the document the
queries that were written, each with its number, its seed and its text, in the same order. -/
theorem read_written_json (queries : List GeneratedQuery) :
    ∃ document : String,
      Format.json.write (.ofLimit none) queries = (.ok (), ⟨none, (document ++ "\n").toUTF8.toList⟩) ∧
      Json.read? document.toList = some (.array (queries.map asJson)) := by
  refine ⟨jsonDocument queries, by rw [write_unlimited, text_json], ?_⟩
  by_cases hne : queries = []
  · rw [hne]
    rfl
  · have hblank : ∀ c ∈ margin, Json.isBlank c = true := List.all_eq_true.1 rfl
    have hlength : 3 ≤ (jsonDocument queries).toList.length := by
      rw [toList_jsonDocument hne, List.length_cons, List.length_append, margin]
      simp only [List.length_cons]
      omega
    obtain ⟨depth, hdepth⟩ := Nat.exists_eq_add_of_le' hlength
    have hread : enclosed ']' (value (depth + 2))
        (margin ++ (List.intercalate (',' :: margin) (queries.map writtenObject) ++ ['\n', ']'])) =
          some (queries.map asJson, []) :=
      enclosed_intercalate hne (fun generated _ => reads_writtenObject depth generated)
        (fun generated _ => opens_writtenObject generated) hblank ⟨.inl rfl, .inr rfl⟩
    have hvalue : value (depth + 3) (jsonDocument queries).toList =
        some (.array (queries.map asJson), []) := by
      rw [toList_jsonDocument hne, value]
      exact congrArg (Option.map _) hread
    have hskip : skipBlanks (jsonDocument queries).toList = (jsonDocument queries).toList := by
      rw [toList_jsonDocument hne]
      rfl
    rw [read?, hdepth, hskip, hvalue]
    rfl

end Output

end QueryVariants
