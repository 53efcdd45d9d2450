import QueryVariants.Error
import QueryVariants.Output.Piece

/-!
# Writing to a place of limited size

A sink takes bytes until it is full. A piece that does not fit is taken as far as there is room, and
nothing is written after it.
-/

namespace QueryVariants.Output

structure Sink where
  /-- How many bytes the sink still takes; any number if it has no limit. -/
  room : Option Nat
  written : List UInt8
  deriving DecidableEq, Repr

namespace Sink

def ofLimit (limit : Option Nat) : Sink :=
  ⟨limit, []⟩

/-- Writes the bytes, or as many of them as there is room for. -/
def write (sink : Sink) (bytes : List UInt8) : Except FileError Unit × Sink :=
  match sink.room with
  | none => (.ok (), { sink with written := sink.written ++ bytes })
  | some room =>
    let sink := ⟨some (room - bytes.length), sink.written ++ bytes.take room⟩
    (if bytes.length ≤ room then .ok () else .error .deviceFull, sink)

/-- Writes the pieces in order and stops at the first that does not fit. -/
def writePieces (sink : Sink) : List Piece → Except Error Unit × Sink
  | [] => (.ok (), sink)
  | piece :: pieces =>
    match sink.write piece.text.toUTF8.toList with
    | (.ok (), sink) => sink.writePieces pieces
    | (.error cause, sink) => (.error (.output piece.action cause), sink)

end Sink

/-- Writes a batch in a format. -/
def Format.write (format : Format) (sink : Sink) (queries : List GeneratedQuery) :
    Except Error Unit × Sink :=
  sink.writePieces (format.pieces queries)

end QueryVariants.Output
