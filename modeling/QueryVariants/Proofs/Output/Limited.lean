import Mathlib.Data.List.Induction
import QueryVariants.Proofs.Json.Output

/-!
# Writing to a place of limited size

As long as the pieces fit, a place takes them one after the other. The first piece that does not fit is taken as
far as there is room, and its action is reported. So the place has received the beginning of the whole output,
and the report tells which piece holds the first byte that is missing; for a script this is found from the sizes
of the queries in front of it.
-/

namespace QueryVariants.Output

def joinedText (pieces : List Piece) : String :=
  String.join (pieces.map Piece.text)

theorem joinedText_append (pieces rest : List Piece) :
    joinedText (pieces ++ rest) = joinedText pieces ++ joinedText rest := by
  rw [joinedText, List.map_append, String.join_append, joinedText, joinedText]

theorem joinedText_cons (piece : Piece) (rest : List Piece) :
    joinedText (piece :: rest) = piece.text ++ joinedText rest := by
  rw [joinedText, List.map_cons, String.join_cons, joinedText]

/-! ### Pieces one after the other -/

namespace Sink

/-- Bytes may be handed over in two parts, if the second part is tried only behind the first. -/
theorem write_append (sink : Sink) (first second : List UInt8) :
    sink.write (first ++ second) =
      match sink.write first with
      | (.ok (), sink) => sink.write second
      | (.error cause, sink) => (.error cause, sink) := by
  obtain ⟨_ | room, written⟩ := sink
  · simp [write, List.append_assoc]
  · by_cases hfits : first.length ≤ room
    · have htake : first.take room = first := List.take_of_length_le hfits
      have hroom : room - (first ++ second).length = room - first.length - second.length := by
        rw [List.length_append, Nat.sub_add_eq]
      have hwhole : (first ++ second).length ≤ room ↔ second.length ≤ room - first.length := by
        rw [List.length_append]
        omega
      simp only [write, if_pos hfits, hroom, hwhole, List.take_append, htake, List.append_assoc]
    · have hwhole : ¬(first ++ second).length ≤ room := by
        rw [List.length_append]
        omega
      have hnone : room - first.length = 0 := by omega
      have hfull : room - (first ++ second).length = 0 := by
        rw [List.length_append]
        omega
      simp only [write, if_neg hfits, if_neg hwhole, List.take_append, hnone, hfull, List.take_zero,
        List.append_nil]

theorem writePieces_append (sink : Sink) (pieces rest : List Piece) :
    sink.writePieces (pieces ++ rest) =
      match sink.writePieces pieces with
      | (.ok (), sink) => sink.writePieces rest
      | (.error error, sink) => (.error error, sink) := by
  induction pieces generalizing sink with
  | nil => rfl
  | cons piece pieces ih =>
      rw [List.cons_append, writePieces, writePieces]
      rcases sink.write piece.text.toUTF8.toList with ⟨_ | ⟨⟨⟩⟩, next⟩
      · rfl
      · exact ih next

/-- Parts with one action are written like the piece that they make up. -/
theorem writePieces_parts_of_action {action : String} {parts : List Piece}
    (h : ∀ part ∈ parts, part.action = action) (sink : Sink) :
    sink.writePieces parts = sink.writePieces [⟨action, joinedText parts⟩] := by
  induction parts generalizing sink with
  | nil =>
      obtain ⟨_ | room, written⟩ := sink
      · simp [writePieces, write, joinedText]
      · simp [writePieces, write, joinedText]
  | cons part parts ih =>
      obtain ⟨haction, hparts⟩ := List.forall_mem_cons.1 h
      rw [joinedText_cons, writePieces, writePieces, toList_toUTF8_append, write_append]
      rcases sink.write part.text.toUTF8.toList with ⟨cause | ⟨⟨⟩⟩, next⟩
      · rw [haction]
      · exact ih hparts next

/-- However small the parts are in which the pieces are handed over, the outcome is the same. -/
theorem writePieces_flatMap_parts {parts : Piece → List Piece}
    (htext : ∀ piece, joinedText (parts piece) = piece.text)
    (haction : ∀ piece, ∀ part ∈ parts piece, part.action = piece.action) (sink : Sink)
    (pieces : List Piece) : sink.writePieces (pieces.flatMap parts) = sink.writePieces pieces := by
  induction pieces generalizing sink with
  | nil => rfl
  | cons piece pieces ih =>
      rw [List.flatMap_cons, writePieces_append, writePieces_parts_of_action (haction piece), htext,
        writePieces, writePieces]
      rcases sink.write piece.text.toUTF8.toList with ⟨cause | ⟨⟨⟩⟩, next⟩
      · rfl
      · exact ih next

/-! ### Pieces that fit, and the first that does not -/

variable {pieces : List Piece} {room : Nat}

theorem writePieces_of_fits (h : (joinedText pieces).utf8ByteSize ≤ room) (written : List UInt8) :
    writePieces ⟨some room, written⟩ pieces =
      (.ok (), ⟨some (room - (joinedText pieces).utf8ByteSize),
        written ++ (joinedText pieces).toUTF8.toList⟩) := by
  induction pieces generalizing room written with
  | nil => simp [writePieces, joinedText]
  | cons piece pieces ih =>
      rw [joinedText_cons, String.utf8ByteSize_append] at h
      have hlength := length_toList_toUTF8 piece.text
      have hpiece : piece.text.toUTF8.toList.length ≤ room := by omega
      have hrest : (joinedText pieces).utf8ByteSize ≤ room - piece.text.toUTF8.toList.length := by omega
      rw [writePieces, write]
      simp only [if_pos hpiece, List.take_of_length_le hpiece]
      rw [ih hrest, joinedText_cons, toList_toUTF8_append, String.utf8ByteSize_append, List.append_assoc,
        hlength, Nat.sub_add_eq]

/-- The piece with the first byte that there is no room for is reported. -/
theorem writePieces_of_lt {piece : Piece} (hfits : (joinedText pieces).utf8ByteSize ≤ room)
    (hlt : room < (joinedText (pieces ++ [piece])).utf8ByteSize) (rest : List Piece) :
    writePieces (.ofLimit (some room)) (pieces ++ piece :: rest) =
      (.error (.output piece.action .deviceFull),
        ⟨some 0, (joinedText (pieces ++ piece :: rest)).toUTF8.toList.take room⟩) := by
  rw [joinedText_append, joinedText_cons, String.utf8ByteSize_append, String.utf8ByteSize_append] at hlt
  have hempty : (joinedText []).utf8ByteSize = 0 := rfl
  have hlength := length_toList_toUTF8 piece.text
  have hleft := length_toList_toUTF8 (joinedText pieces)
  have hpiece : ¬piece.text.toUTF8.toList.length ≤ room - (joinedText pieces).utf8ByteSize := by omega
  have hnone : room - (joinedText pieces).utf8ByteSize - piece.text.utf8ByteSize = 0 := by omega
  have htake : (joinedText pieces).toUTF8.toList.take room = (joinedText pieces).toUTF8.toList :=
    List.take_of_length_le (by omega)
  rw [writePieces_append, ofLimit, writePieces_of_fits hfits]
  simp only [writePieces, write, if_neg hpiece, List.nil_append]
  rw [joinedText_append, joinedText_cons, toList_toUTF8_append, toList_toUTF8_append, List.take_append, htake,
    List.take_append, hleft, hlength, hnone, List.take_zero, List.append_nil]

end Sink

/-! ### The piece at a place -/

/-- A list that measures more than `place` has a beginning that just passes it. -/
theorem exists_covering {α : Type} (size : List α → Nat) (hnil : size [] = 0) {items : List α} {place : Nat}
    (h : place < size items) :
    ∃ earlier item later, items = earlier ++ item :: later ∧ size earlier ≤ place ∧
      place < size (earlier ++ [item]) := by
  -- from the right: the last item counts only if the items in front of it do not pass the place
  induction items using List.reverseRecOn with
  | nil => omega
  | append_singleton items last ih =>
      by_cases hfront : place < size items
      · obtain ⟨earlier, item, later, hitems, hlow, hhigh⟩ := ih hfront
        exact ⟨earlier, item, later ++ [last], by rw [hitems, List.append_assoc, List.cons_append], hlow, hhigh⟩
      · exact ⟨items, last, [], rfl, Nat.le_of_not_lt hfront, h⟩

/-! ### Scripts -/

/-- The line in front of a query. -/
def headerPiece (generated : GeneratedQuery) : Piece where
  action := s!"writing header for query{generated.query}"
  text := s!"-- query{generated.query} (seed {generated.seed})\n"

/-- The text of a query without blanks at its end, and a semicolon. -/
def bodyPiece (generated : GeneratedQuery) : Piece where
  action := s!"writing query{generated.query}"
  text := String.ofList (Text.trimEnd generated.sql.toList) ++ ";\n"

/-- The empty line behind a query. -/
def gapPiece : Piece where
  action := "writing newline"
  text := "\n"

theorem sqlPieces_eq (queries : List GeneratedQuery) :
    sqlPieces queries =
      queries.flatMap fun generated => [headerPiece generated, bodyPiece generated, gapPiece] := rfl

theorem sqlPieces_append (earlier later : List GeneratedQuery) :
    sqlPieces (earlier ++ later) = sqlPieces earlier ++ sqlPieces later := by
  rw [sqlPieces_eq, List.flatMap_append, sqlPieces_eq, sqlPieces_eq]

theorem sqlPieces_append_cons (earlier : List GeneratedQuery) (generated : GeneratedQuery)
    (later : List GeneratedQuery) :
    sqlPieces (earlier ++ generated :: later) =
      sqlPieces earlier ++ headerPiece generated :: bodyPiece generated :: gapPiece :: sqlPieces later := by
  rw [sqlPieces_append]
  rfl

theorem utf8ByteSize_text_sql_concat (earlier : List GeneratedQuery) (generated : GeneratedQuery) :
    (Format.sql.text (earlier ++ [generated])).utf8ByteSize = (Format.sql.text earlier).utf8ByteSize +
      (headerPiece generated).text.utf8ByteSize + (bodyPiece generated).text.utf8ByteSize + 1 := by
  change (joinedText (sqlPieces (earlier ++ [generated]))).utf8ByteSize =
    (joinedText (sqlPieces earlier)).utf8ByteSize + _ + _ + 1
  have hend : (joinedText (gapPiece :: sqlPieces [])).utf8ByteSize = 1 := rfl
  rw [sqlPieces_append_cons, joinedText_append, joinedText_cons, joinedText_cons]
  simp only [String.utf8ByteSize_append, hend, Nat.add_assoc]

/-- What is being done when the byte at a place of the output is written. The place is counted from zero. -/
inductive WrittenAt : Format → List GeneratedQuery → Nat → String → Prop
  | header (earlier : List GeneratedQuery) (generated : GeneratedQuery) (later : List GeneratedQuery)
      {offset : Nat} (h : offset < (headerPiece generated).text.utf8ByteSize) :
      WrittenAt .sql (earlier ++ generated :: later) ((Format.sql.text earlier).utf8ByteSize + offset)
        s!"writing header for query{generated.query}"
  | body (earlier : List GeneratedQuery) (generated : GeneratedQuery) (later : List GeneratedQuery)
      {offset : Nat} (h : offset < (bodyPiece generated).text.utf8ByteSize) :
      WrittenAt .sql (earlier ++ generated :: later)
        ((Format.sql.text earlier).utf8ByteSize + (headerPiece generated).text.utf8ByteSize + offset)
        s!"writing query{generated.query}"
  | gap (earlier : List GeneratedQuery) (generated : GeneratedQuery) (later : List GeneratedQuery) :
      WrittenAt .sql (earlier ++ generated :: later)
        ((Format.sql.text earlier).utf8ByteSize + (headerPiece generated).text.utf8ByteSize +
          (bodyPiece generated).text.utf8ByteSize)
        "writing newline"
  | json {queries : List GeneratedQuery} {place : Nat}
      (h : place < (Format.json.text queries).utf8ByteSize) :
      WrittenAt .json queries place "writing JSON"

variable {format : Format} {queries : List GeneratedQuery} {place : Nat}

theorem exists_writtenAt (h : place < (format.text queries).utf8ByteSize) :
    ∃ action, WrittenAt format queries place action := by
  cases format with
  | json => exact ⟨_, .json h⟩
  | sql =>
      have hnil : (Format.sql.text []).utf8ByteSize = 0 := rfl
      obtain ⟨earlier, generated, later, rfl, hlow, hhigh⟩ :=
        exists_covering (fun queries => (Format.sql.text queries).utf8ByteSize) hnil h
      rw [utf8ByteSize_text_sql_concat] at hhigh
      obtain ⟨offset, rfl⟩ := Nat.exists_eq_add_of_le hlow
      by_cases hheader : offset < (headerPiece generated).text.utf8ByteSize
      · exact ⟨_, .header earlier generated later hheader⟩
      · obtain ⟨offset, rfl⟩ := Nat.exists_eq_add_of_le (Nat.le_of_not_lt hheader)
        rw [← Nat.add_assoc]
        by_cases hbody : offset < (bodyPiece generated).text.utf8ByteSize
        · exact ⟨_, .body earlier generated later hbody⟩
        · obtain rfl : offset = (bodyPiece generated).text.utf8ByteSize := by omega
          exact ⟨_, .gap earlier generated later⟩

theorem action_of_mem_jsonPieces {piece : Piece} (h : piece ∈ jsonPieces queries) :
    piece.action = "writing JSON" := by
  obtain ⟨text, -, rfl⟩ := List.mem_map.1 h
  rfl

theorem exists_piece_of_writtenAt {action : String} (h : WrittenAt format queries place action) :
    ∃ earlier piece later, format.pieces queries = earlier ++ piece :: later ∧ piece.action = action ∧
      (joinedText earlier).utf8ByteSize ≤ place ∧ place < (joinedText (earlier ++ [piece])).utf8ByteSize := by
  have hsize : ∀ queries, (Format.sql.text queries).utf8ByteSize =
      (joinedText (sqlPieces queries)).utf8ByteSize := fun _ => rfl
  have hempty : (joinedText []).utf8ByteSize = 0 := rfl
  cases h with
  | header earlier generated later h =>
      refine ⟨sqlPieces earlier, _, _, sqlPieces_append_cons earlier generated later, rfl, ?_, ?_⟩ <;>
        · simp only [hsize, joinedText_append, joinedText_cons, String.utf8ByteSize_append]
          omega
  | body earlier generated later h =>
      refine ⟨sqlPieces earlier ++ [headerPiece generated], _, _,
        (sqlPieces_append_cons earlier generated later).trans (List.append_cons _ _ _), rfl, ?_, ?_⟩ <;>
        · simp only [hsize, joinedText_append, joinedText_cons, String.utf8ByteSize_append]
          omega
  | gap earlier generated later =>
      have hgap : gapPiece.text.utf8ByteSize = 1 := rfl
      refine ⟨sqlPieces earlier ++ [headerPiece generated, bodyPiece generated], gapPiece, sqlPieces later,
        ?_, rfl, ?_, ?_⟩
      · rw [List.append_assoc]
        exact sqlPieces_append_cons earlier generated later
      all_goals
        simp only [hsize, joinedText_append, joinedText_cons, String.utf8ByteSize_append]
        omega
  | json h =>
      obtain ⟨earlier, piece, later, hpieces, hlow, hhigh⟩ :=
        exists_covering (fun pieces => (joinedText pieces).utf8ByteSize) hempty h
      have hpiece : piece ∈ jsonPieces queries := by
        change piece ∈ Format.json.pieces queries
        rw [hpieces]
        exact List.mem_append_right _ List.mem_cons_self
      exact ⟨earlier, piece, later, hpieces, action_of_mem_jsonPieces hpiece, hlow, hhigh⟩

/-- **A place that runs full has received the beginning.** Writing a batch to a place that takes a limited number
of bytes succeeds exactly if the whole output has no more bytes. In any case the place has received the output as
far as it goes, which is all of it on success. A failure reports a full device and what was being done when the
first byte without room was written. All this is the same if each piece is handed over in parts, as long as none
is tried behind one that failed. -/
theorem write_limited (format : Format) (queries : List GeneratedQuery) (limit : Nat) :
    let whole := (format.write (.ofLimit none) queries).2.written
    let outcome := format.write (.ofLimit (some limit)) queries
    (outcome.1 = .ok () ↔ whole.length ≤ limit) ∧
    outcome.2.written = whole.take limit ∧
    (outcome.1 = .ok () → outcome.2.written = whole) ∧
    (limit < whole.length →
      (∃ action, WrittenAt format queries limit action) ∧
      ∀ action, WrittenAt format queries limit action → outcome.1 = .error (.output action .deviceFull)) ∧
    ∀ parts : Piece → List Piece, (∀ piece, joinedText (parts piece) = piece.text) →
      (∀ piece, ∀ part ∈ parts piece, part.action = piece.action) →
      (Sink.ofLimit (some limit)).writePieces ((format.pieces queries).flatMap parts) = outcome := by
  have hwhole : (format.write (.ofLimit none) queries).2.written = (format.text queries).toUTF8.toList := by
    rw [write_unlimited]
  have hparts : ∀ parts : Piece → List Piece, (∀ piece, joinedText (parts piece) = piece.text) →
      (∀ piece, ∀ part ∈ parts piece, part.action = piece.action) →
      (Sink.ofLimit (some limit)).writePieces ((format.pieces queries).flatMap parts) =
        format.write (.ofLimit (some limit)) queries :=
    fun parts htext haction => Sink.writePieces_flatMap_parts htext haction _ _
  dsimp only
  rw [hwhole, length_toList_toUTF8]
  by_cases hfits : (format.text queries).utf8ByteSize ≤ limit
  · have hpieces : (joinedText (format.pieces queries)).utf8ByteSize ≤ limit := hfits
    have hwrite : format.write (.ofLimit (some limit)) queries = _ := Sink.writePieces_of_fits hpieces []
    have htake : (format.text queries).toUTF8.toList.take limit = (format.text queries).toUTF8.toList :=
      List.take_of_length_le (by rwa [length_toList_toUTF8])
    rw [hwrite] at hparts ⊢
    rw [htake]
    exact ⟨⟨fun _ => hfits, fun _ => rfl⟩, rfl, fun _ => rfl, fun hlt => absurd hfits (Nat.not_le_of_lt hlt),
      hparts⟩
  · have hlt := Nat.lt_of_not_le hfits
    have hreport : ∀ action, WrittenAt format queries limit action →
        format.write (.ofLimit (some limit)) queries = (.error (.output action .deviceFull),
          ⟨some 0, (format.text queries).toUTF8.toList.take limit⟩) := by
      intro action haction
      obtain ⟨earlier, piece, later, hpieces, rfl, hlow, hhigh⟩ := exists_piece_of_writtenAt haction
      have hwrite := Sink.writePieces_of_lt hlow hhigh later
      rw [← hpieces] at hwrite
      exact hwrite
    obtain ⟨action, haction⟩ := exists_writtenAt hlt
    have houtcome := hreport action haction
    rw [houtcome] at hparts ⊢
    refine ⟨⟨nofun, fun hle => absurd hle hfits⟩, rfl, nofun, fun _ => ⟨⟨action, haction⟩, ?_⟩, hparts⟩
    intro other hother
    exact congrArg Prod.fst (houtcome.symm.trans (hreport other hother))

/-- A place that is full once the header is written. -/
theorem write_limited_header :
    (Format.sql.write (.ofLimit (some 20)) [⟨3, 42, "select 1\n"⟩]).1 =
      .error (.output "writing query3" .deviceFull) := by
  have hbody : 0 < (bodyPiece ⟨3, 42, "select 1\n"⟩).text.utf8ByteSize := by decide
  have hplace : WrittenAt .sql [⟨3, 42, "select 1\n"⟩] 20 "writing query3" :=
    .body [] ⟨3, 42, "select 1\n"⟩ [] hbody
  have hwhole : 20 < (Format.sql.write (.ofLimit none) [⟨3, 42, "select 1\n"⟩]).2.written.length := by
    rw [write_unlimited, length_toList_toUTF8]
    decide
  exact ((write_limited .sql [⟨3, 42, "select 1\n"⟩] 20).2.2.2.1 hwhole).2 _ hplace

end QueryVariants.Output
