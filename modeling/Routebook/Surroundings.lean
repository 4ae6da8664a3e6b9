import Routebook.Failure
import Routebook.Text.Search

/-!
# Surroundings

What a command finds around it: files, environment variables, standard input and a terminal.  A file
is found by its path from the root of all files, from the working directory, or from the home
directory.
-/

namespace Routebook

set_option autoImplicit false

/-! ## Files -/

/-- What stands at a path. -/
inductive FileNode
  | directory
  | file (bytes : List UInt8)
  deriving DecidableEq, Repr

/-- Files and directories. -/
structure Files where
  /-- The path of the working directory. -/
  directory : String
  /-- The path of the home directory. -/
  home : String
  /-- The names of users with their home directories. -/
  homes : List (String × String)
  /-- What stands at each place, given by the names on the way from the root. -/
  nodes : List (List String × FileNode)
  deriving Repr

/-- The names on a path; empty names and single dots lead nowhere else. -/
def pathNames (path : String) : List String :=
  (Text.splitText '/' path).filter fun name => !name.isEmpty && name != "."

/-- How many bytes a name on a path may have. -/
def nameLimit : Nat := 255

/-- How many bytes a path may have. -/
def pathLimit : Nat := 4095

/-- Whether a path starts at the root of all files. -/
def isRooted (path : String) : Bool :=
  Text.startsWith ['/'] path.toList

/-- How many bytes a path has, written without what leads nowhere. -/
def pathLength (path : String) : Nat :=
  ("/".intercalate (pathNames path)).utf8ByteSize + if isRooted path then 1 else 0

/-- The ending of the last name on a path, its dot included, in lower case. -/
def pathSuffix (path : String) : String :=
  let name := ((pathNames path).getLast?.getD "").toList
  let ending := name.reverse.takeWhile (· != '.')
  if ending.isEmpty || name.length ≤ ending.length + 1 then ""
  else String.ofList ('.' :: ending.reverse.map Char.toLower)

/-- The users that an account list names, with their home directories: a line an account, its parts
between colons, the name first and the home directory sixth. -/
def accountHomes (accounts : String) : List (String × String) :=
  (Text.splitText '\n' accounts).filterMap fun line =>
    match Text.splitText ':' line with
    | name :: _ :: _ :: _ :: _ :: home :: _ => some (name, home)
    | _ => none

namespace Files

/-- Whether there is a directory at a place. -/
def isDirectory (files : Files) (place : List String) : Bool :=
  place.isEmpty || files.nodes.any fun node =>
    (node.1 == place && node.2 == .directory)
      || (place.isPrefixOf node.1 && place.length < node.1.length)

/-- The place that names lead to from a directory; two dots lead up, and nowhere from the root. -/
def follow (files : Files) : List String → List String → Option (List String)
  | place, [] => some place
  | place, name :: rest =>
      if !files.isDirectory place then none
      else if name == ".." then follow files place.dropLast rest
      else follow files (place ++ [name]) rest

/-- The content of the file that names lead to from the root. -/
def contentAt? (files : Files) (names : List String) : Option (List UInt8) := do
  let place ← files.follow [] names
  match (files.nodes.find? fun node => node.1 == place).map Prod.snd with
  | some (.file bytes) => some bytes
  | _ => none

/-- The home directory that a name stands for: a tilde alone or with a user's name behind it. -/
def homeOf (files : Files) (name : String) : Except Failure String :=
  if name == "~" then .ok files.home
  else
    match files.homes.find? fun user => "~" ++ user.1 == name with
    | some user => .ok user.2
    | none => .error .homeUnknown

/-- The names that lead from the root to a path.  A path is complete if it starts at the root or
with the path of the working directory, and its first name may stand for a home directory. -/
def locate (files : Files) (path : String) : Except Failure (List String) :=
  let names := pathNames path
  if isRooted path || Text.startsWith files.directory.toList path.toList then .ok names
  else
    match names with
    | first :: rest =>
        if Text.startsWith ['~'] first.toList then
          (files.homeOf first).map fun home => pathNames home ++ rest
        else .ok (pathNames files.directory ++ names)
    | [] => .ok (pathNames files.directory)

/-- Whether a name too long for any file is looked up on the way along names from a directory. -/
def meetsLongName (files : Files) : List String → List String → Bool
  | _, [] => false
  | place, name :: rest =>
      files.isDirectory place
        && (nameLimit < name.utf8ByteSize
          || if name == ".." then meetsLongName files place.dropLast rest
            else meetsLongName files (place ++ [name]) rest)

/-- The content of the file at a path. -/
def read? (files : Files) (path : String) : Except Failure (Option (List UInt8)) := do
  let names ← files.locate path
  if path.toList.contains '\x00' then return none
  if pathLimit < pathLength path || files.meetsLongName [] names then throw .pathTooLong
  return files.contentAt? names

end Files

/-! ## Surroundings -/

/-- The surroundings of a command. -/
structure Surroundings where
  files : Files
  /-- The environment variables. -/
  environment : List (String × String)
  /-- What stands on standard input. -/
  input : String
  /-- Whether data goes to a terminal. -/
  terminal : Bool
  /-- The width of the terminal. -/
  width : Nat
  deriving Repr

namespace Surroundings

/-- The value of an environment variable. -/
def environmentValue? (surroundings : Surroundings) (name : String) : Option String :=
  (surroundings.environment.find? fun entry => entry.1 == name).map Prod.snd

/-- Whether the environment asks for output without colour. -/
def refusesColor (surroundings : Surroundings) : Bool :=
  (surroundings.environmentValue? "NO_COLOR").isSome
    || surroundings.environmentValue? "TERM" == some "dumb"

end Surroundings

end Routebook
