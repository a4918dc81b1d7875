import UnitConversion.Text.Split

/-!
# Paths

A path is a row of names, from a root or from the working directory. Writing it out drops repeated
separators and the names that stay in place; the names that go up stay.
-/

namespace UnitConversion

/-- A path, cut into names. -/
structure Path where
  /-- What stands before the names: nothing for a relative path, one separator for an absolute one,
  and two for one that was written with exactly two. -/
  root : String
  /-- The names, without those that are empty or a single dot. -/
  names : List String
deriving DecidableEq, Repr

/-- The variables and accounts that paths and settings depend on. -/
structure Environment where
  /-- The variables with their values. -/
  bindings : List (String × String)
  /-- The accounts with their home directories. -/
  accounts : List (String × String)

/-- The value of a variable, if it is set. -/
def Environment.get? (environment : Environment) (name : String) : Option String :=
  environment.bindings.lookup name

/-- The value of a variable, if it is set and not empty. -/
def Environment.getNonempty? (environment : Environment) (name : String) : Option String :=
  (environment.get? name).filter fun value => !value.isEmpty

namespace Path

/-- The names of a written path, empty ones among them. -/
def rawNames (text : String) : List String := (Text.splitAtChar '/' text.toList).map String.ofList

/-- The root of a written path. -/
def rootOf (text : String) : String :=
  match (text.toList.takeWhile (· = '/')).length with
  | 0 => ""
  | 2 => "//"
  | _ => "/"

/-- Read a path. -/
def ofString (text : String) : Path :=
  ⟨rootOf text, (rawNames text).filter fun name => name != "" && name != "."⟩

/-- Write a path. The working directory is a dot. -/
def toString (path : Path) : String :=
  if path.root.isEmpty && path.names.isEmpty then "."
  else path.root ++ "/".intercalate path.names

/-- The path starts at the root. -/
def isAbsolute (path : Path) : Bool := !path.root.isEmpty

/-- The path without its last name. -/
def parent (path : Path) : Path := { path with names := path.names.dropLast }

/-- A path that is meant from a directory. -/
def under (directory path : Path) : Path :=
  if path.isAbsolute then path else { directory with names := directory.names ++ path.names }

/-- Remove the separators at the end. -/
def dropTrailing (text : String) : String :=
  String.ofList (text.toList.reverse.dropWhile (· = '/')).reverse

/-- The home directory that a first name starting with a tilde stands for. -/
def homeOf (environment : Environment) (name : String) : Option Path :=
  let account := String.ofList (name.toList.drop 1)
  let home :=
    if account.isEmpty then environment.get? "HOME" else environment.accounts.lookup account
  (home.map fun text => if (dropTrailing text).isEmpty then "/" else dropTrailing text).bind
    fun text => if text.startsWith "~" then none else some (ofString text)

/-- Replace a tilde at the start of a path by the home directory. Nothing when that is unknown. -/
def expandHome (environment : Environment) (path : Path) : Option Path :=
  match path.names with
  | first :: rest =>
    if path.root.isEmpty && first.startsWith "~" then
      (homeOf environment first).map fun home => { home with names := home.names ++ rest }
    else some path
  | [] => some path

end Path

end UnitConversion
