import ParseBench.CommandLine.Words
import ParseBench.Path

set_option relaxedAutoImplicit false
set_option autoImplicit false

/-!
# What the program is asked to do

## Main definitions

* `ParseBench.CommandLine.Request` — a command and the settings that go with it.
* `ParseBench.CommandLine.Request.ofWords` — the request of a command line.
-/

namespace ParseBench.CommandLine

/-- A command. -/
inductive Command where
  /-- Runs the benchmark on the fixtures of a manifest, kept in a cache. -/
  | bench (manifest cache : Option Path)
  /-- Checks the contract of the binding. -/
  | verify
  /-- Parses a file and shows what was found, possibly with the tree. -/
  | inspect (file : Path) (tree : Bool)
deriving DecidableEq, Repr

/-- The name of a command. -/
def Command.name : Command → String
  | .bench .. => "bench"
  | .verify => "verify"
  | .inspect .. => "inspect"

/-- A request. -/
structure Request where
  /-- The name of the console backend. -/
  console : String
  /-- How often more output was asked for. -/
  verbosity : Nat
  logFile : Option Path
  /-- The name of the binding. -/
  binding : String
  command : Command
deriving DecidableEq, Repr

/-- The name of the binding if none is given. -/
def defaultBinding : String := "ssc"

/-- The last value of a setting. -/
def Taken.last? (t : Taken) (s : Setting) : Option String :=
  (t.settings.reverse.find? fun (given, _) => given == s).map (·.2)

/-- The last value of a setting, as a path. -/
def Taken.path? (t : Taken) (s : Setting) : Option Path := (t.last? s).map Path.ofString

/-- The command of a name with its settings. -/
def Command.ofTaken (name : String) (t : Taken) : Command :=
  if name == "bench" then .bench (t.path? .fixtures) (t.path? .cacheDirectory)
  else if name == "inspect" then
    .inspect (Path.ofString ((t.free.bind List.head?).getD "")) (t.last? .ast).isSome
  else .verify

/-- The request of a command line. Words that are left over are reported last, all together. -/
def Request.ofWords (words : List String) : Except Stop Request := do
  let taken ← mainGrammar.take words
  match taken.free with
  | some (name :: rest) =>
    if !commandNames.contains name then
      .error (.fault programName (.badChoice "command" name commandNames))
    else
      let inner ← (commandGrammar name).take rest
      match taken.rest ++ inner.rest with
      | [] =>
        return {
          console := (taken.last? .console).getD "auto"
          verbosity := (taken.settings.filter fun (s, _) => s == .verbose).length
          logFile := taken.path? .logFile
          binding := (inner.last? .parserModule).getD defaultBinding
          command := .ofTaken name inner }
      | left => .error (.fault programName (.unrecognized left))
  | _ => .error (.fault programName (.missing "command"))

end ParseBench.CommandLine
