import Routebook.Text.Search

/-!
# Command lines

The words after the name of the program are options, the name of a command, and what belongs to the
command.  An option's value stands in the same word or in the next one, short options without a
value can share a word, and two dashes end the options.  Before the command's name options come
first; after it they may stand anywhere.
-/

namespace Routebook.CommandLine

set_option autoImplicit false

/-! ## Options -/

/-- An option that can be given. -/
structure Flag where
  long : String
  short : Option Char
  takesValue : Bool
  deriving DecidableEq, Repr

/-- An option that is given. -/
structure Given where
  name : String
  value : Option String
  deriving DecidableEq, Repr

/-- The options and the other words of a list of words. -/
structure Scan where
  given : List Given
  others : List String
  deriving DecidableEq, Repr

/-- Whether a word gives options. -/
def givesOptions (word : String) : Bool :=
  match word.toList with
  | '-' :: _ :: _ => true
  | _ => false

/-- The options of a word of short options, given behind the dash, and the option whose value is the
next word. -/
def readShort (flags : List Flag) : List Char → Option (List Given × Option String)
  | [] => some ([], none)
  | letter :: rest =>
      match flags.find? fun flag => flag.short == some letter with
      | none => none
      | some flag =>
          if flag.takesValue then
            if rest.isEmpty then some ([], some flag.long)
            else some ([⟨flag.long, some (String.ofList rest)⟩], none)
          else
            (readShort flags rest).map fun (given, pending) =>
              (⟨flag.long, none⟩ :: given, pending)

/-- The options of a word, and the option whose value is the next word; none if the word cannot be
read. -/
def readWord (flags : List Flag) (word : String) : Option (List Given × Option String) :=
  let (name, value) := Text.cut '=' word.toList
  match flags.find? fun flag => flag.long.toList == name with
  | some flag =>
      match flag.takesValue, value with
      | true, some text => some ([⟨flag.long, some (String.ofList text)⟩], none)
      | true, none => some ([], some flag.long)
      | false, none => some ([⟨flag.long, none⟩], none)
      | false, some _ => none
  | none =>
      match word.toList with
      | '-' :: '-' :: _ => none
      | '-' :: letters => readShort flags letters
      | _ => none

/-- Separates options from other words; if options come first, the first other word ends them. -/
def scan (flags : List Flag) (optionsFirst : Bool) : List String → Option Scan
  | [] => some ⟨[], []⟩
  | word :: rest =>
      if word == "--" then some ⟨[], rest⟩
      else if givesOptions word then
        match readWord flags word with
        | none => none
        | some (given, none) =>
            (scan flags optionsFirst rest).map fun found => ⟨given ++ found.given, found.others⟩
        | some (given, some name) =>
            match rest with
            | [] => none
            | value :: after =>
                (scan flags optionsFirst after).map fun found =>
                  ⟨given ++ ⟨name, some value⟩ :: found.given, found.others⟩
      else if optionsFirst then some ⟨[], word :: rest⟩
      else (scan flags optionsFirst rest).map fun found => ⟨found.given, word :: found.others⟩

namespace Scan

/-- Whether an option is given. -/
def has (found : Scan) (name : String) : Bool :=
  found.given.any fun given => given.name == name

/-- The values of an option, in order. -/
def values (found : Scan) (name : String) : List String :=
  found.given.filterMap fun given => if given.name == name then given.value else none

/-- The last value of an option. -/
def last? (found : Scan) (name : String) : Option String :=
  (found.values name).getLast?

end Scan

/-! ## Commands -/

/-- The options for all commands. -/
structure Switches where
  json : Bool
  plain : Bool
  noColor : Bool
  quiet : Bool
  verbose : Bool
  dryRun : Bool
  deriving DecidableEq, Repr

/-- A command with what belongs to it. -/
inductive Command
  /-- Lists the declared routes. -/
  | routes (config : Option String)
  /-- Shows the address of a route. -/
  | uri (name : String) (config : Option String) (arguments : List String)
  /-- Calls a route. -/
  | call (name : String) (config : Option String) (arguments : List String) (body : Option String)
      (options : List String)
  deriving DecidableEq, Repr

/-- What a command line asks for. -/
inductive Invocation
  | run (switches : Switches) (command : Command)
  | help
  /-- Help for want of any word. -/
  | helpForNothing
  | version
  | misuse
  deriving DecidableEq, Repr

/-- The configuration that a command names. -/
def Command.config? : Command → Option String
  | .routes config | .uri _ config _ | .call _ config _ _ _ => config

/-- The flag that asks for help. -/
def helpFlag : Flag := ⟨"--help", none, false⟩

/-- The flags before the name of a command. -/
def commonFlags : List Flag :=
  [⟨"--version", none, false⟩, ⟨"--json", none, false⟩, ⟨"--plain", none, false⟩,
   ⟨"--no-color", none, false⟩, ⟨"--quiet", some 'q', false⟩, ⟨"--verbose", some 'v', false⟩,
   ⟨"--dry-run", some 'n', false⟩, helpFlag]

/-- The flag that names a configuration. -/
def configFlag : Flag := ⟨"--config", some 'c', true⟩

/-- The flag that gives an argument. -/
def argumentFlag : Flag := ⟨"--arg", some 'a', true⟩

/-- The flags of the command that calls a route. -/
def callFlags : List Flag :=
  [configFlag, argumentFlag, ⟨"--body", some 'b', true⟩, ⟨"--option", some 'O', true⟩, helpFlag]

/-- The switches that are given. -/
def switchesOf (found : Scan) : Switches where
  json := found.has "--json"
  plain := found.has "--plain"
  noColor := found.has "--no-color"
  quiet := found.has "--quiet"
  verbose := found.has "--verbose"
  dryRun := found.has "--dry-run"

/-- What is asked for by a flag that counts before all else: the first one given. -/
def eager? (found : Scan) : Option Invocation :=
  found.given.findSome? fun given =>
    if given.name == "--version" then some .version
    else if given.name == "--help" then some .help
    else none

/-- A command as far as its words allow. -/
def commandOf? (name : String) (found : Scan) : Option Command :=
  match name, found.others with
  | "routes", [] => some (.routes (found.last? "--config"))
  | "uri", [route] => some (.uri route (found.last? "--config") (found.values "--arg"))
  | "call", [route] =>
      some (.call route (found.last? "--config") (found.values "--arg") (found.last? "--body")
        (found.values "--option"))
  | _, _ => none

/-- The flags of a command. -/
def flagsOf? (name : String) : Option (List Flag) :=
  match name with
  | "routes" => some [configFlag, helpFlag]
  | "uri" => some [configFlag, argumentFlag, helpFlag]
  | "call" => some callFlags
  | _ => none

/-- What the words of a command ask for. -/
def parseCommand (switches : Switches) (name : String) (words : List String) : Invocation :=
  match flagsOf? name with
  | none =>
      -- An unknown name that looks like options is read as options once more.
      if givesOptions name then
        match scan commonFlags true (name :: words) with
        | some found => (eager? found).getD .misuse
        | none => .misuse
      else .misuse
  | some flags =>
      match scan flags false words with
      | none => .misuse
      | some found =>
          match eager? found with
          | some invocation => invocation
          | none =>
              match commandOf? name found with
              | some command => .run switches command
              | none => .misuse

/-- What a command line asks for. -/
def parse (words : List String) : Invocation :=
  if words.isEmpty then .helpForNothing
  else
    match scan commonFlags true words with
    | none => .misuse
    | some found =>
        match eager? found, found.others with
        | some invocation, _ => invocation
        | none, [] => .misuse
        | none, name :: rest => parseCommand (switchesOf found) name rest

end Routebook.CommandLine
