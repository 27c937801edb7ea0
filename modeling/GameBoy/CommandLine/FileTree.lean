/-!
# Trees of files

A session reads files by their paths. A `FileTree` holds files and folders by their names, so that a
session can be had without a disk. A path is followed name by name from the root or from a working
folder, and `FileTree.read` gives the contents of the file to which it leads, or says why it leads
to none. A name behind a file is an error, even an empty one.
-/

namespace GameBoy.CommandLine

/-- Why a file cannot be read. -/
inductive FileError where
  /-- A name on the path does not exist. -/
  | notFound
  /-- A name that is not the last is that of a file. -/
  | notFolder
  /-- The path leads to a folder. -/
  | isFolder
  /-- The path or one of its names is too long. -/
  | tooLong
  /-- The contents should be text but are not. -/
  | notText
  /-- Something else went wrong. -/
  | other (reason : String)
  deriving DecidableEq, Repr

/-- The wording of the error. -/
def FileError.message : FileError → String
  | notFound => "No such file or directory (os error 2)"
  | notFolder => "Not a directory (os error 20)"
  | isFolder => "Is a directory (os error 21)"
  | tooLong => "File name too long (os error 36)"
  | notText => "stream did not contain valid UTF-8"
  | other reason => reason

/-- A file, or a folder of files and folders. -/
inductive FileTree where
  /-- A file with its contents. -/
  | file (bytes : Array UInt8)
  /-- A folder with its entries by name. -/
  | folder (entries : List (String × FileTree))

namespace FileTree

/-- The number of bytes that a name may have. -/
def maxNameSize : Nat := 255

/-- The number of bytes that a path may have. -/
def maxPathSize : Nat := 4095

/-- Where a path has led: a file or a folder, and the folders that hold it, the innermost first. -/
structure Place where
  /-- The file or folder. -/
  here : FileTree
  /-- The folders that hold it. -/
  above : List FileTree

namespace Place

/-- The folder that holds a place. The root has none and stands for it. -/
def parent (p : Place) : Place :=
  match p.above with
  | [] => p
  | up :: above => ⟨up, above⟩

/-- Follows a name. -/
def follow (p : Place) (name : String) : Except FileError Place :=
  match p.here with
  | .file _ => .error .notFolder
  | .folder entries =>
    if name = "" ∨ name = "." then .ok p
    else if name = ".." then .ok p.parent
    else if maxNameSize < name.utf8ByteSize then .error .tooLong
    else
      match entries.lookup name with
      | some t => .ok ⟨t, p.here :: p.above⟩
      | none => .error .notFound

/-- Follows names, one after the other. -/
def followAll (p : Place) : List String → Except FileError Place
  | [] => .ok p
  | name :: rest =>
    match p.follow name with
    | .ok p => p.followAll rest
    | .error e => .error e

end Place

/-- Cuts a path at its slashes, behind a part of a name that is given backwards. -/
def cutNames (reversed : List Char) : List Char → List String
  | [] => [String.ofList reversed.reverse]
  | c :: cs =>
    if c = '/' then String.ofList reversed.reverse :: cutNames [] cs
    else cutNames (c :: reversed) cs

/-- The place to which a path leads from a working folder. -/
def find (root : FileTree) (working : List String) (path : String) : Except FileError Place :=
  let names := cutNames [] path.toList
  let start : Place := ⟨root, []⟩
  if path.isEmpty then .error .notFound
  else if maxPathSize < path.utf8ByteSize then .error .tooLong
  else if names.head? = some "" then start.followAll names
  else start.followAll (working ++ names)

/-- The contents of the file to which a path leads from a working folder. -/
def read (root : FileTree) (working : List String) (path : String) :
    Except FileError (Array UInt8) :=
  match root.find working path with
  | .error e => .error e
  | .ok ⟨.folder _, _⟩ => .error .isFolder
  | .ok ⟨.file bytes, _⟩ => .ok bytes

end FileTree

end GameBoy.CommandLine
