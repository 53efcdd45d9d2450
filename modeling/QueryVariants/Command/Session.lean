import QueryVariants.FileTree

/-!
# What a run does

A run acts on the outside: it prints, it reports on standard error, and it writes files. A session is a part
of a run. It has its effects, one after the other, and its result; a failure ends the session and takes none
of the effects back.
-/

namespace QueryVariants.Command

/-- Something that a run does to the outside. -/
inductive Effect where
  /-- Bytes for standard output. -/
  | print (bytes : List UInt8)
  /-- A text for standard error. -/
  | report (text : String)
  /-- An empty file at a place, in the place of an old one. -/
  | create (path : String) (place : List String)
  /-- Bytes behind those of a file. -/
  | append (path : String) (place : List String) (bytes : List UInt8)
  deriving DecidableEq, Repr

namespace Effect

def printed : Effect → List UInt8
  | print bytes => bytes
  | _ => []

def reported : Effect → String
  | report text => text
  | _ => ""

/-- The content of the file at a place. -/
def contentAt (tree : FileTree) (place : List String) : ByteArray :=
  match tree.entry? place with
  | some (.file content) => content
  | _ => ByteArray.empty

/-- The files after the effect. -/
def apply (tree : FileTree) : Effect → FileTree
  | create _ place => tree.put place (.file ByteArray.empty)
  | append _ place bytes => tree.put place (.file (contentAt tree place ++ ⟨bytes.toArray⟩))
  | _ => tree

end Effect

/-- A part of a run: what it does, in order, and how it ends. -/
structure Session (α : Type) where
  effects : List Effect
  result : Except String α

namespace Session

variable {α β : Type}

protected def pure (a : α) : Session α :=
  ⟨[], .ok a⟩

protected def bind (session : Session α) (next : α → Session β) : Session β :=
  match session.result with
  | .error message => ⟨session.effects, .error message⟩
  | .ok a => ⟨session.effects ++ (next a).effects, (next a).result⟩

instance : Monad Session where
  pure := Session.pure
  bind := Session.bind

def fail (message : String) : Session α :=
  ⟨[], .error message⟩

def ofExcept (result : Except Error α) : Session α :=
  ⟨[], result.mapError Error.report⟩

def perform (effect : Effect) : Session Unit :=
  ⟨[effect], .ok ()⟩

def printLine (line : String) : Session Unit :=
  perform (.print (line ++ "\n").toUTF8.toList)

end Session

/-- What a run leads to. -/
structure Outcome where
  exit : Nat
  effects : List Effect
  deriving DecidableEq, Repr

namespace Outcome

/-- What stands on standard output. -/
def stdout (outcome : Outcome) : String :=
  Text.markedText (outcome.effects.flatMap Effect.printed)

def stderr (outcome : Outcome) : String :=
  String.join (outcome.effects.map Effect.reported)

/-- The files after the run. -/
def files (outcome : Outcome) (tree : FileTree) : FileTree :=
  outcome.effects.foldl Effect.apply tree

end Outcome

/-- A whole run: one that fails reports why. -/
def Session.outcome (session : Session Unit) : Outcome :=
  match session.result with
  | .ok () => ⟨0, session.effects⟩
  | .error message => ⟨1, session.effects ++ [.report ("Error: " ++ message ++ "\n")]⟩

end QueryVariants.Command
