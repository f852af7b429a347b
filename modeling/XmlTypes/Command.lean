import XmlTypes.Build.Basic
import XmlTypes.Dump.Json
import XmlTypes.Dump.OfGraph
import XmlTypes.Files
/-!
# The command line

Two commands: `build` writes the type graph of a schema set, and `order` the order in which its
documents are built. Options may stand anywhere after the command, short ones may be run together,
and after `--` everything is a file. What a command does is a function of its arguments and the
files that it names.
-/

namespace XmlTypes

open Schema

/-- A command with its arguments. -/
inductive Command
  | build (set : String) (configuration : Option String)
      (generateNamespaces json pretty : Bool)
  | order (set : String)
deriving DecidableEq, Repr, Inhabited

/-- What the arguments ask for. -/
inductive Request
  | run (command : Command)
  /-- Help, or the version. -/
  | help
  | misuse
deriving DecidableEq, Repr, Inhabited

namespace Command

/-! ## Arguments -/

/-- What the arguments of a command have said so far. -/
structure Arguments where
  file : Option String := none
  configuration : Option String := none
  generateNamespaces : Bool := false
  json : Bool := false
  pretty : Bool := false
deriving DecidableEq, Repr, Inhabited

/-- Where reading the arguments of a command has got to. Help and misuse end it. -/
inductive Progress
  | reading (a : Arguments)
  /-- The next argument is the name of the configuration file. -/
  | awaiting (a : Arguments)
  /-- The remaining arguments are names of files. -/
  | afterDashes (a : Arguments)
  | help
  | misuse
deriving DecidableEq, Repr, Inhabited

/-- Sets the name of the configuration file, once. -/
def setConfiguration (a : Arguments) (name : String) : Progress :=
  if name.isEmpty || a.configuration.isSome then .misuse
  else .reading { a with configuration := some name }

/-- Sets the name of the schema set's file, once. -/
def setFile (a : Arguments) (name : String) : Option Arguments :=
  if name.isEmpty || a.file.isSome then none else some { a with file := some name }

/-- A long option, without its dashes. `build` tells which command it belongs to. -/
def longOption (build : Bool) (a : Arguments) (option : String) : Progress :=
  if option = "verbose" then .reading a
  else if option = "help" then .help
  else if !build then .misuse
  else if option = "generate-namespaces" && !a.generateNamespaces then
    .reading { a with generateNamespaces := true }
  else if option = "json" && !a.json then .reading { a with json := true }
  else if option = "pretty" && !a.pretty then .reading { a with pretty := true }
  else if option = "config" then .awaiting a
  else match Text.dropHead? "config=".toList option.toList with
    | some name => setConfiguration a (String.ofList name)
    | none => .misuse

/-- Short options run together, without their dash. -/
def shortOptions (build : Bool) (a : Arguments) : List Char → Progress
  | [] => .reading a
  | 'v' :: cs => shortOptions build a cs
  | 'h' :: _ => .help
  | 'j' :: cs =>
    if build && !a.json then shortOptions build { a with json := true } cs else .misuse
  | 'p' :: cs =>
    if build && !a.pretty then shortOptions build { a with pretty := true } cs else .misuse
  | 'c' :: cs =>
    if !build then .misuse
    else match cs with
      | [] => .awaiting a
      | '=' :: name => setConfiguration a (String.ofList name)
      | name => setConfiguration a (String.ofList name)
  | _ => .misuse

/-- Reads one argument of a command. -/
def readArgument (build : Bool) : Progress → String → Progress
  | .reading a, arg =>
    match arg.toList with
    | ['-', '-'] => .afterDashes a
    | '-' :: '-' :: option => longOption build a (String.ofList option)
    | '-' :: c :: cs => shortOptions build a (c :: cs)
    | _ => (setFile a arg).elim .misuse .reading
  | .awaiting a, arg =>
    match arg.toList with
    | '-' :: _ :: _ => .misuse
    | _ => setConfiguration a arg
  | .afterDashes a, arg => (setFile a arg).elim .misuse .afterDashes
  | .help, _ => .help
  | .misuse, _ => .misuse

/-- The command that its arguments make up. -/
def ofProgress (build : Bool) : Progress → Request
  | .reading a | .afterDashes a =>
    match a.file with
    | some set =>
      .run (if build then .build set a.configuration a.generateNamespaces a.json a.pretty
        else .order set)
    | none => .misuse
  | .help => .help
  | .awaiting _ | .misuse => .misuse

/-- What the arguments of a command ask for. -/
def request (build : Bool) (args : List String) : Request :=
  ofProgress build (args.foldl (readArgument build) (.reading {}))

/-- What the arguments of the program ask for. -/
def ofArguments : List String → Request
  | [] => .misuse
  | arg :: args =>
    if arg = "build" then request true args
    else if arg = "order" then request false args
    else if arg = "help" then
      if args ∈ [[], ["build"], ["order"], ["help"]] then .help else .misuse
    else if arg = "--help" || arg = "--version" then .help
    else if arg = "--verbose" then ofArguments args
    else match arg.toList with
      | '-' :: c :: cs =>
        match (c :: cs).dropWhile (· = 'v') with
        | [] => ofArguments args
        | 'h' :: _ | 'V' :: _ => .help
        | _ => .misuse
      | _ => .misuse

/-! ## Running -/

/-- A name for a namespace: its last segment that is not empty. -/
def generatedName (uri : String) : String :=
  let segments := Text.splitOn (fun c => c = '/' || c = ':' || c = '#') uri.toList
  match (segments.filter fun s => !s.isEmpty).getLast? with
  | some s => pascalCase (String.ofList s)
  | none => pascalCase "Default"

/-- The name and version of the program. -/
def banner : String := "xsd-typegraph v0.1.0"

/-- What the `build` command writes. -/
def report (d : GraphDump) (json pretty : Bool) : String :=
  if json then d.toJson pretty ++ "\n"
  else
    banner ++ "\n\n" ++ d.summary ++ "\n" ++ toString d.typeCount ++ " types in "
      ++ toString d.namespaces.length ++ " namespaces\n"

/-- A numbered line of the `order` command. -/
def orderLine (number : Nat) (location : String) : String :=
  let digits := toString number
  String.ofList (List.replicate (3 - digits.length) ' ') ++ digits ++ ". " ++ location ++ "\n"

/-- What a command writes, given the contents of files by name. -/
def run (contents : String → Option String) : Command → Except Failure String
  | build set configuration generateNamespaces json pretty => do
    let set ← SchemaSet.shape.readContent (contents set)
    let configuration ← match configuration with
      | none => pure {}
      | some name => Configuration.shape.readContent (contents name)
    let policy : Option NamespacePolicy :=
      if generateNamespaces then some fun _ uri => some (generatedName uri) else none
    let g ← buildGraph set configuration.options .conventional
      { configuration.resolver with policy }
    return report g.dump json pretty
  | order set => do
    let set ← SchemaSet.shape.readContent (contents set)
    let locations := (Index.ofSet set).buildOrderLocations
    return String.join (locations.zipIdx.map fun (location, i) => orderLine (i + 1) location)

/-- The files that a command reads. -/
def files : Command → List String
  | build set configuration _ _ _ => set :: configuration.toList
  | order set => [set]

end Command

/-- How a run of the program ends: its exit code, what it writes, and what stopped it. -/
structure Outcome where
  code : Nat
  output : String := ""
  failure : Option Failure := none
deriving DecidableEq, Repr, Inhabited

/-- Runs the program on its arguments, given the contents of files by name. -/
def Request.outcome (contents : String → Option String) : Request → Outcome
  | run command =>
    match command.run contents with
    | .ok output => { code := 0, output }
    | .error failure => { code := 1, failure := some failure }
  | help => { code := 0 }
  | misuse => { code := 2 }

end XmlTypes
