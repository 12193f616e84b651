import ServiceLoom.Generation.Files

/-!
# File trees

A file tree holds files by place, a place being the names of the directories on
the way and of the file. A directory is there as long as a file lies below it.
Generated files are saved below an output directory: a path that could lead out
of it is refused, directories are created as needed, and the first failure ends
the run while earlier files stay.
-/

namespace ServiceLoom

/-- The names on the way from the root of a tree. -/
abbrev Place := List String

/-- Files by place. -/
structure FileTree where
  files : List (Place × String)

/-- Why a file was not written. -/
inductive WriteError where
  | refused (path : String)
  | noDirectory (path : String)
  | noFile (path : String)
deriving DecidableEq, Repr

def WriteError.message : WriteError → String
  | refused path => "refusing to write outside the output directory: " ++ path
  | noDirectory path => "failed to create " ++ path
  | noFile path => "failed to write " ++ path

/-- The parts of a path between slashes. -/
def pathParts (path : String) : List String :=
  (path.toList.splitOn '/').map String.ofList

/-- Whether a path starts at the root of the file system. -/
def isAbsolutePath (path : String) : Bool := path.toList.head? = some '/'

/-- Whether a path may lead out of the directory below which it is put. -/
def mayEscape (path : String) : Bool :=
  isAbsolutePath path || (pathParts path).contains ".."

/-- A path below a directory. -/
def joinPath (directory path : String) : String :=
  if directory = "" then path
  else if directory.toList.getLast? = some '/' then directory ++ path
  else directory ++ "/" ++ path

/-- The text without its last slashes. -/
def withoutEndSlashes (cs : List Char) : List Char :=
  (cs.reverse.dropWhile (· = '/')).reverse

/-- The directory of a path. -/
def parentPath (path : String) : String :=
  let front :=
    ((withoutEndSlashes path.toList).reverse.dropWhile (· ≠ '/')).reverse
  String.ofList (withoutEndSlashes front)

/-- The longest name that a file or directory can have, in bytes. -/
def nameLimit : Nat := 255

/-- Whether a file or directory can have a name. -/
def isPossibleName (name : String) : Bool :=
  name.utf8ByteSize ≤ nameLimit && !name.toList.contains '\x00'

namespace FileTree

/-- The content of the file at a place. -/
def content? (t : FileTree) (p : Place) : Option String :=
  (t.files.find? (·.1 = p)).map (·.2)

def isFile (t : FileTree) (p : Place) : Bool := (t.content? p).isSome

/-- Whether files lie below a place. The root is always a directory. -/
def isDirectory (t : FileTree) (p : Place) : Bool :=
  p = [] || t.files.any fun f => p.isPrefixOf f.1 && f.1 ≠ p

/-- The tree with a file at a place. -/
def put (t : FileTree) (p : Place) (content : String) : FileTree :=
  if t.isFile p then ⟨t.files.map fun f => if f.1 = p then (p, content) else f⟩
  else ⟨t.files ++ [(p, content)]⟩

/-- The place that one part of a path leads to; none above the root. -/
def step (p : Place) (part : String) : Option Place :=
  if part = "" ∨ part = "." then some p
  else if part = ".." then if p = [] then none else some p.dropLast
  else some (p ++ [part])

/-- Where the parts of a path lead. Each of them must start at a directory. -/
def follow? (t : FileTree) (p : Place) : List String → Option Place
  | [] => some p
  | part :: rest =>
    if t.isDirectory p then
      (step p part).bind fun p => t.follow? p rest
    else none

/-- What a path names. -/
inductive Entry where
  | missing
  | directory
  | file (content : String)

/-- What a path names. The tree shows nothing outside of its root. -/
def lookup (t : FileTree) (path : String) : Entry :=
  if isAbsolutePath path then .missing
  else match t.follow? [] (pathParts path) with
    | none => .missing
    | some p =>
      match t.content? p with
      | some content => .file content
      | none => if t.isDirectory p then .directory else .missing

/-- Where a part of a path leads when missing directories are created;
`some none` lies outside of the tree. A file on the way blocks it. -/
def enter (t : FileTree) (part : String) : Option Place → Option (Option Place)
  | none => some none
  | some p =>
    if t.isFile p || !isPossibleName part then none else some (step p part)

/-- The directory that a path's parts name, created if it is missing. -/
def enterAll (t : FileTree) : Option Place → List String → Option (Option Place)
  | p, [] => some p
  | p, part :: rest => (t.enter part p).bind fun p => t.enterAll p rest

/-- Whether a part of a path names something within its directory. -/
def isName (part : String) : Bool := part ≠ "" && part ≠ "." && part ≠ ".."

/-- Writes one file at a path. What lies outside of the tree is not recorded. -/
def write (t : FileTree) (path content : String) : Except WriteError FileTree :=
  let parts := pathParts path
  let start := if isAbsolutePath path then none else some []
  match t.enterAll start parts.dropLast with
  | none => .error (.noDirectory (parentPath path))
  | some directory =>
    let name := parts.getLast?.getD ""
    if !isName name then .error (.noFile path)
    else match t.enter name directory with
      | none => .error (.noFile path)
      | some none => .ok t
      | some (some p) =>
        if t.isDirectory p then .error (.noFile path) else .ok (t.put p content)

/-- Saves files below a directory: the tree afterwards, and the paths that were
written or the first failure. -/
def save (t : FileTree) (directory : String) :
    List GeneratedFile → FileTree × Except WriteError (List String)
  | [] => (t, .ok [])
  | f :: rest =>
    if mayEscape f.path then (t, .error (.refused f.path))
    else
      let path := joinPath directory f.path
      match t.write path f.content with
      | .error e => (t, .error e)
      | .ok t =>
        let (t, result) := t.save directory rest
        (t, result.map (path :: ·))

/-- The tree of files by path. -/
def ofPaths (files : List (String × String)) : FileTree :=
  ⟨files.map fun (path, content) => ((pathParts path).filter isName, content)⟩

/-- The content of every file by its path. -/
def toPaths (t : FileTree) : Dict String :=
  Dict.ofEntries (t.files.map fun (p, content) => ("/".intercalate p, content))

end FileTree

end ServiceLoom
