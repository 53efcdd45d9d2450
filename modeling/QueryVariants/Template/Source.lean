import QueryVariants.Distribution.Registry
import QueryVariants.Template.Bundled

/-!
# Sources of templates

A source has the text of a template, or does not have it, or fails because it has it and cannot read it.
Layers are asked in order, and the first that has the text or fails decides.
-/

namespace QueryVariants

inductive TemplateSource where
  | bundled
  /-- Texts by query number, each number at most once. -/
  | memory (templates : List (Nat × String))
  | directory (path : String)
  | layers (sources : List TemplateSource)

namespace TemplateSource

/-- A directory of files `query<N>.tpl`, which must exist. -/
def ofDirectory (tree : FileTree) (path : String) : Except Error TemplateSource :=
  if tree.isDirectory path then .ok (.directory path)
  else .error (.missingTemplateDirectory path)

/-- The file of a template in a directory. -/
def pathFor (dir : String) (id : Nat) : String :=
  Path.join dir s!"query{id}.tpl"

/-- The bundled templates behind those of a directory. -/
def overBundled (source : TemplateSource) : TemplateSource :=
  .layers [source, .bundled]

def bundledIds : List Nat :=
  Template.Bundled.templates.map Prod.fst

/-- The file of a template, if there is one. -/
def loadFile (tree : FileTree) (dir : String) (id : Nat) : Except Error (Option String) :=
  let path := pathFor dir id
  if tree.holds path then
    match tree.read path with
    | .ok content => .ok (some (Text.decodeLenient content))
    | .error cause => .error (.templateSource id path cause)
  else .ok none

/-- What a directory answers: the text of the file, by one byte to a character where it is not UTF-8, a failure
where a directory stands in the place of the file, and no template where the path leads nowhere. -/
theorem loadFile_eq (tree : FileTree) (dir : String) (id : Nat) :
    loadFile tree dir id =
      match tree.find (pathFor dir id) with
      | .ok (.file content) => .ok (some (Text.decodeLenient content))
      | .ok .directory => .error (.templateSource id (pathFor dir id) .isDirectory)
      | .error _ => .ok none := by
  rcases hfind : tree.find (pathFor dir id) with cause | content | _ <;>
    simp [loadFile, FileTree.holds, FileTree.read, hfind, bind, Except.bind]

theorem loadFile_of_text {tree : FileTree} {dir text : String} {id : Nat}
    (h : tree.find (pathFor dir id) = .ok (.file text.toUTF8)) : loadFile tree dir id = .ok (some text) := by
  simp only [loadFile_eq, h, Text.decodeLenient_toUTF8]

theorem loadFile_of_not_isValidUTF8 {tree : FileTree} {dir : String} {id : Nat} {content : ByteArray}
    (h : tree.find (pathFor dir id) = .ok (.file content)) (hinvalid : ¬content.IsValidUTF8) :
    loadFile tree dir id = .ok (some (Text.decodeLatin1 content)) := by
  simp only [loadFile_eq, h, Text.decodeLenient_of_not_isValidUTF8 hinvalid]

mutual

/-- The text of a template. -/
def load (tree : FileTree) : TemplateSource → Nat → Except Error (Option String)
  | bundled, id => .ok (Template.Bundled.templates.lookup id)
  | memory templates, id => .ok (templates.lookup id)
  | directory path, id => loadFile tree path id
  | layers sources, id => loadFirst tree sources id

def loadFirst (tree : FileTree) : List TemplateSource → Nat → Except Error (Option String)
  | [], _ => .ok none
  | source :: sources, id => do
    match ← source.load tree id with
    | some text => return some text
    | none => loadFirst tree sources id

end

mutual

/-- A description for a reader. -/
def describe : TemplateSource → String
  | bundled => "bundled templates"
  | memory templates => s!"{templates.length} in-memory templates"
  | directory path => s!"templates in {path}"
  | layers sources => ", then ".intercalate (describeAll sources)

def describeAll : List TemplateSource → List String
  | [] => []
  | source :: sources => source.describe :: describeAll sources

end

end TemplateSource

end QueryVariants
