import Routebook.Command.Program

/-!
# The executable

Gathers the surroundings that a command line can notice, runs the program in them, and writes what
it leaves.  Only what may be read is read: the files of the project, the source that the command
line or the environment names, and standard input where that is the source.  This executable opens
no connection, so a request that is not rehearsed is reported as failed.
-/

namespace Routebook.Executable

set_option autoImplicit false

attribute [local instance] Runtime.usual

/-! ## Gathering -/

/-- The environment variables that make a difference. -/
def variableNames : List String := ["NO_COLOR", "TERM", configurationVariable]

/-- The given environment variables that are set. -/
def readVariables (names : List String) : IO (List (String × String)) :=
  names.filterMapM fun name => do
    return (← IO.getEnv name).map fun value => (name, value)

/-- The content of a file, if it can be read. -/
def readContent? (path : String) : IO (Option (List UInt8)) := do
  try return some (← IO.FS.readBinFile path).toList
  catch _ => return none

/-- Files with another one that is read from its place. -/
def addFile (files : Files) (names : List String) : IO Files := do
  match ← readContent? ("/" ++ "/".intercalate names) with
  | some bytes =>
      let place := (files.follow [] names).getD names
      return { files with nodes := (place, .file bytes) :: files.nodes }
  | none => return files

/-- The working directory and the home directory with the files of the project. -/
def readFiles : IO Files := do
  let directory := (← IO.currentDir).toString
  let home := (← IO.getEnv "HOME").getD directory
  let accounts := (← readContent? "/etc/passwd").getD []
  let start : Files :=
    { directory, home
      homes := accountHomes (String.ofList (Text.utf8DecodeReplacing accounts))
      nodes := [(pathNames directory, .directory), (pathNames home, .directory)] }
  projectFileNames.foldlM (fun files name => addFile files (pathNames directory ++ [name])) start

/-- Everything on standard input. -/
def readInput : IO String := do
  let stream ← IO.getStdin
  let mut bytes := ByteArray.empty
  repeat
    let chunk ← stream.read 65536
    if chunk.isEmpty then break
    bytes := bytes ++ chunk
  return String.ofList (Text.utf8DecodeReplacing bytes.toList)

/-- The width of the terminal. -/
def readWidth : IO Nat := do
  return ((← IO.getEnv "COLUMNS").bind String.toNat?).getD 80

/-- Surroundings in which the source that a command names can be read. -/
def withSource (surroundings : Surroundings) (named : Option String) : IO Surroundings := do
  match Source.resolve surroundings named with
  | .error _ => return surroundings
  | .ok source =>
      if source == "-" then return { surroundings with input := ← readInput }
      else
        match surroundings.files.locate source with
        | .error _ => return surroundings
        | .ok names => return { surroundings with files := ← addFile surroundings.files names }

/-- The surroundings of a command line. -/
def readSurroundings (words : List String) : IO Surroundings := do
  let surroundings : Surroundings :=
    { files := ← readFiles
      environment := ← readVariables variableNames
      input := ""
      terminal := ← (← IO.getStdout).isTty
      width := ← readWidth }
  match CommandLine.parse words with
  | .run _ command => withSource surroundings command.config?
  | _ => return surroundings

/-! ## Running -/

/-- A session in which requests fail. -/
def offline : Session :=
  { Session.empty with replies := [.failure "No connection can be opened"] }

/-- Runs the command line and yields its exit status. -/
def runWords (words : List String) : IO UInt32 := do
  let surroundings ← readSurroundings words
  let (ending, _) := Program.run surroundings words offline
  IO.print ending.stdout
  IO.eprint ending.stderr
  return UInt32.ofNat ending.exitCode.toNat

end Routebook.Executable

/-- Runs the command line and ends with its exit status. -/
def main (words : List String) : IO UInt32 := Routebook.Executable.runWords words
