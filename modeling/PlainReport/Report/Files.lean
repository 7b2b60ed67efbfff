import PlainReport.Encoding.Unicode
import PlainReport.Keyed

/-!
# Files

A report needs two operations on files: reading all bytes of one and writing all
bytes of one.  They may be done by any monad.  The model of them is a file tree,
which is a map from places to bytes together with the directories there are.

A path is text.  Its parts stand between slashes, and it starts at the root if it
begins with a slash and at the working directory if not.
-/

namespace PlainReport

/-- Why a file cannot be read or written. -/
inductive FileFault where
  | notFound
  | notDirectory
  | isDirectory
  /-- The path has more than 4095 bytes, or a name on it more than 255. -/
  | nameTooLong
  /-- There is a zero character in the path. -/
  | zeroInPath
  /-- Any other reason, in the words of the system. -/
  | other (text : Text)
deriving DecidableEq, Repr

/-- The words of the system. -/
def FileFault.message : FileFault → Text
  | notFound => "No such file or directory (os error 2)"
  | notDirectory => "Not a directory (os error 20)"
  | isDirectory => "Is a directory (os error 21)"
  | nameTooLong => "File name too long (os error 36)"
  | zeroInPath => "file name contained an unexpected NUL byte"
  | other text => text

/-- The operations on files that a report needs. -/
structure FileAccess (m : Type → Type) where
  /-- Reads all bytes of the file at a path. -/
  read : Text → m (Except FileFault Bytes)
  /-- Writes all bytes of the file at a path, which need not exist before. -/
  write : Text → Bytes → m (Except FileFault Unit)

/-- The names from the root down to a file or directory. -/
abbrev Place := List Text

/-- A file at its place. -/
structure File where
  /-- The place. -/
  place : Place
  /-- The bytes. -/
  bytes : Bytes
deriving DecidableEq, Repr

/-- The files and directories that there are. -/
structure FileTree where
  /-- The files. -/
  files : Keyed File.place
  /-- The directories.  The root is one without being listed. -/
  directories : List Place
  /-- The directory where paths start. -/
  working : Place
deriving DecidableEq

namespace FileTree

/-- Whether there is a directory at a place. -/
def isDirectory (tree : FileTree) (place : Place) : Bool :=
  place.isEmpty || place ∈ tree.directories

/-- The place that one part of a path leads to.  One point stays and two go up. -/
def stepTo (place : Place) (part : Text) : Place :=
  if part = ['.'] then place else if part = ['.', '.'] then place.dropLast else place ++ [part]

/-- Walks along the parts of a path.  All but the last must lead to directories. -/
def walk (tree : FileTree) : Place → List Text → Except FileFault Place
  | place, [] => .ok place
  | place, part :: rest =>
    if tree.isDirectory place then
      if 255 < Text.byteSize part then .error .nameTooLong else walk tree (stepTo place part) rest
    else if tree.files.contains place then .error .notDirectory
    else .error .notFound

/-- What is wrong with a path by itself, whatever files there are. -/
def faultOfPath? (path : Text) : Option FileFault :=
  if path.isEmpty then some .notFound
  else if '\x00' ∈ path then some .zeroInPath
  else if 4095 < Text.byteSize path then some .nameTooLong
  else none

/-- The parts of a path. -/
def partsOf (path : Text) : List Text := (Text.pieces '/' path).filter (!·.isEmpty)

/-- Walks along some parts from where a path starts. -/
def follow (tree : FileTree) (path : Text) (parts : List Text) : Except FileFault Place :=
  match faultOfPath? path with
  | some fault => .error fault
  | none => tree.walk (if path.head? = some '/' then [] else tree.working) parts

/-- The place of a path. -/
def resolve (tree : FileTree) (path : Text) : Except FileFault Place :=
  tree.follow path (partsOf path)

/-- Whether a path ends in a slash, as only that of a directory may. -/
def asksForDirectory (path : Text) : Bool := path.getLast? = some '/'

/-- Reads a file. -/
def read (tree : FileTree) (path : Text) : Except FileFault Bytes :=
  match tree.resolve path with
  | .error fault => .error fault
  | .ok place =>
    if tree.isDirectory place then .error .isDirectory
    else match tree.files.find? place with
      | none => .error .notFound
      | some file => if asksForDirectory path then .error .notDirectory else .ok file.bytes

/-- Why no file can be written at a path that ends in a slash: its last part is taken
for a directory, whatever is there. -/
def faultOfDirectory (tree : FileTree) (path : Text) : FileFault :=
  match tree.follow path ((partsOf path).dropLast ++ [['.']]) with
  | .error fault => fault
  | .ok _ => .isDirectory

/-- Writes a file.  A fault leaves the tree as it is. -/
def write (tree : FileTree) (path : Text) (bytes : Bytes) : Except FileFault FileTree :=
  if asksForDirectory path then .error (tree.faultOfDirectory path)
  else match tree.resolve path with
    | .error fault => .error fault
    | .ok place =>
      if tree.isDirectory place then .error .isDirectory
      else .ok { tree with files := tree.files.put ⟨place, bytes⟩ }

/-- File access in a tree. -/
def access : FileAccess (StateM FileTree) where
  read path := fun tree => (tree.read path, tree)
  write path bytes := fun tree =>
    match tree.write path bytes with
    | .ok later => (.ok (), later)
    | .error fault => (.error fault, tree)

end FileTree

end PlainReport
