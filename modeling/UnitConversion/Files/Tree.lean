import UnitConversion.Files.Path

/-!
# File trees

The directories and files that a program sees, as a value. A path is followed name by name, so that
each directory on the way has to exist.
-/

namespace UnitConversion

/-- A place in a file tree: the names from the working directory, those that go up first, or the
names after the separator that stands for the root. -/
abbrev Location := List String

/-- What a place holds. -/
inductive FileEntry
  /-- A directory. -/
  | directory
  /-- A file with its bytes. -/
  | file (bytes : List UInt8)
deriving DecidableEq, Repr

/-- Why a file cannot be used. -/
inductive FileFault
  /-- There is no such file. -/
  | missing
  /-- The path leads to a directory. -/
  | isDirectory
  /-- The path leads through a file. -/
  | notDirectory
  /-- A name, or the whole path, is too long. -/
  | nameTooLong
  /-- The path holds a character that no path can hold. -/
  | embeddedNull
deriving DecidableEq, Repr

/-- The fault in words. -/
def FileFault.reason : FileFault → String
  | missing => "No such file or directory"
  | isDirectory => "Is a directory"
  | notDirectory => "Not a directory"
  | nameTooLong => "File name too long"
  | embeddedNull => "embedded null byte"

/-- Directories and files by their places. -/
structure FileTree where
  /-- The places that hold something. -/
  entries : List (Location × FileEntry)
deriving DecidableEq, Repr

namespace FileTree

/-- The tree without files. -/
def empty : FileTree := ⟨[]⟩

/-- The place of the root. -/
def rootLocation : Location := ["/"]

/-- A place that is a directory in every tree: the working directory, one above it, or the root. -/
def alwaysDirectory (location : Location) : Bool :=
  location.all (· == "..") || location == rootLocation

/-- What a place holds. -/
def entryAt? (tree : FileTree) (location : Location) : Option FileEntry :=
  if alwaysDirectory location then some .directory else tree.entries.lookup location

/-- The place above a place. -/
def above (location : Location) : Location :=
  if location == rootLocation then location
  else if location.all (· == "..") then location ++ [".."]
  else location.dropLast

/-- The most bytes of a name. -/
def maxNameBytes : Nat := 255

/-- The most bytes of a path. -/
def maxPathBytes : Nat := 4095

/-- Make sure that a place is a directory. -/
def requireDirectory (tree : FileTree) (location : Location) : Except FileFault Unit :=
  match tree.entryAt? location with
  | some .directory => .ok ()
  | some (.file _) => .error .notDirectory
  | none => .error .missing

/-- Go one name further. -/
def step (tree : FileTree) (location : Location) (name : String) : Except FileFault Location := do
  tree.requireDirectory location
  if name = "" ∨ name = "." then return location
  if name = ".." then return above location
  if maxNameBytes < name.utf8ByteSize then throw .nameTooLong
  return location ++ [name]

/-- Follow names from a place. -/
def follow (tree : FileTree) (location : Location) : List String → Except FileFault Location
  | [] => .ok location
  | name :: rest => do tree.follow (← tree.step location name) rest

/-- The names of a written path that can be followed. -/
def checkedNames (path : String) : Except FileFault (List String) :=
  if path.toList.contains (Char.ofNat 0) then .error .embeddedNull
  else if path.isEmpty then .error .missing
  else if maxPathBytes < path.utf8ByteSize then .error .nameTooLong
  else .ok (Path.rawNames path)

/-- The place from which a written path is followed. -/
def origin (path : String) : Location := if path.startsWith "/" then rootLocation else []

/-- The place that a written path leads to. It need not hold anything. -/
def locate (tree : FileTree) (path : String) : Except FileFault Location := do
  tree.follow (origin path) (← checkedNames path)

/-- What a written path leads to. -/
def status (tree : FileTree) (path : String) : Except FileFault FileEntry := do
  match tree.entryAt? (← tree.locate path) with
  | some entry => return entry
  | none => throw .missing

/-- The bytes of a file. -/
def read (tree : FileTree) (path : String) : Except FileFault (List UInt8) := do
  match ← tree.status path with
  | .file bytes => return bytes
  | .directory => throw .isDirectory

/-- Whether a path leads to a file. Only a name that is too long keeps this from being answered. -/
def isFile (tree : FileTree) (path : Path) : Except FileFault Bool :=
  match tree.status path.toString with
  | .ok (.file _) => .ok true
  | .error .nameTooLong => .error .nameTooLong
  | _ => .ok false

/-- Put something into a place. -/
def insert (tree : FileTree) (location : Location) (entry : FileEntry) : FileTree :=
  ⟨(location, entry) :: tree.entries.filter fun old => old.1 != location⟩

/-- Refuse to write a path that ends in a separator: it names a directory, whether that is there or
not. -/
def refuseDirectory (tree : FileTree) (path : String) : Except FileFault FileTree := do
  let _ ← checkedNames path
  let names := Path.rawNames (Path.dropTrailing path)
  tree.requireDirectory (← tree.follow (origin path) names.dropLast)
  throw .isDirectory

/-- Write a file, replacing one that is there. -/
def write (tree : FileTree) (path : String) (bytes : List UInt8) : Except FileFault FileTree := do
  if path.endsWith "/" then tree.refuseDirectory path
  else
    let location ← tree.locate path
    match tree.entryAt? location with
    | some .directory => throw .isDirectory
    | _ => return tree.insert location (.file bytes)

/-- The directories on the way to a place. -/
def parents (location : Location) : List Location :=
  (List.range location.length).map location.take

/-- Put something into a place, and directories on the way to it. -/
def place (tree : FileTree) (location : Location) (entry : FileEntry) : FileTree :=
  let missing := (parents location).filter fun place => (tree.entryAt? place).isNone
  (missing.foldl (fun tree place => tree.insert place .directory) tree).insert location entry

/-- The files below the working directory that are not in an earlier tree with the same bytes. -/
def changedSince (tree earlier : FileTree) : List (Location × List UInt8) :=
  tree.entries.filterMap fun (location, entry) =>
    match entry with
    | .directory => none
    | .file bytes =>
      if location.head? == some ".." || location.head? == some "/" ||
          earlier.entryAt? location == some entry then none
      else some (location, bytes)

end FileTree

end UnitConversion
