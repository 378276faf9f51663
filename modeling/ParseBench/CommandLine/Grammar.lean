import ParseBench.Text.Quoted

set_option relaxedAutoImplicit false
set_option autoImplicit false

/-!
# What may stand on the command line

A command line consists of settings, which begin with a dash, and of at most one free argument. The
free argument of the program itself is the command, with everything that follows it.

## Main definitions

* `ParseBench.CommandLine.Setting` — the settings, their names and whether they take a value.
* `ParseBench.CommandLine.Grammar` — the settings and the free argument that are allowed.
* `ParseBench.CommandLine.UsageFault` — why a command line is refused.
-/

namespace ParseBench.CommandLine

open ParseBench.Text (quoted)

/-- A setting. -/
inductive Setting where
  | help
  | console
  | verbose
  | logFile
  | parserModule
  | fixtures
  | cacheDirectory
  | ast
deriving DecidableEq, Repr

namespace Setting

/-- The names of a setting. -/
def names : Setting → List String
  | .help => ["-h", "--help"]
  | .console => ["--console"]
  | .verbose => ["-v", "--verbose"]
  | .logFile => ["--log-file"]
  | .parserModule => ["--parser-module"]
  | .fixtures => ["--fixtures"]
  | .cacheDirectory => ["--cache-dir"]
  | .ast => ["--ast"]

/-- Whether a setting takes a value. -/
def takesValue : Setting → Bool
  | .help | .verbose | .ast => false
  | _ => true

/-- The values that a setting can have; none if there is no restriction. -/
def choices : Setting → List String
  | .console => ["auto", "rich", "plain"]
  | _ => []

/-- How a setting is called in faults. -/
def title (s : Setting) : String := "/".intercalate s.names

end Setting

/-- The free argument. -/
inductive Free where
  | nothing
  | file
  | command
deriving DecidableEq, Repr

/-- What a command line may hold; faults begin with the name of the program. -/
structure Grammar where
  program : String
  settings : List Setting
  free : Free
deriving DecidableEq, Repr

/-- All names of settings, in order. -/
def Grammar.names (g : Grammar) : List (String × Setting) :=
  g.settings.flatMap fun s => s.names.map fun n => (n, s)

/-- The setting of a name. -/
def Grammar.setting? (g : Grammar) (name : String) : Option Setting := g.names.lookup name

/-- The name of the program. -/
def programName : String := "ssc-bench"

/-- The commands. -/
def commandNames : List String := ["bench", "verify", "inspect"]

/-- What the program itself takes. -/
def mainGrammar : Grammar :=
  ⟨programName, [.help, .console, .verbose, .logFile], .command⟩

/-- What a command takes. -/
def commandGrammar (command : String) : Grammar :=
  let program := programName ++ " " ++ command
  if command == "bench" then
    ⟨program, [.help, .parserModule, .fixtures, .cacheDirectory], .nothing⟩
  else if command == "inspect" then ⟨program, [.help, .parserModule, .ast], .file⟩
  else ⟨program, [.help, .parserModule], .nothing⟩

/-! ## Faults -/

/-- Why a command line is refused. -/
inductive UsageFault where
  /-- A word abbreviates several names. -/
  | ambiguous (word : String) (names : List String)
  /-- A setting lacks its value. -/
  | noValue (s : Setting)
  /-- A setting that takes no value has one. -/
  | ignoredValue (s : Setting) (value : String)
  /-- A value is none of those that are possible. -/
  | badChoice (title value : String) (choices : List String)
  /-- The free argument is missing. -/
  | missing (title : String)
  /-- Words are left over. -/
  | unrecognized (words : List String)
deriving DecidableEq, Repr

/-- The wording of a fault. -/
def UsageFault.message : UsageFault → String
  | .ambiguous word names =>
    "ambiguous option: " ++ word ++ " could match " ++ ", ".intercalate names
  | .noValue s => "argument " ++ s.title ++ ": expected one argument"
  | .ignoredValue s value =>
    "argument " ++ s.title ++ ": ignored explicit argument " ++ quoted value
  | .badChoice title value choices =>
    "argument " ++ title ++ ": invalid choice: " ++ quoted value ++ " (choose from " ++
      ", ".intercalate (choices.map quoted) ++ ")"
  | .missing title => "the following arguments are required: " ++ title
  | .unrecognized words => "unrecognized arguments: " ++ " ".intercalate words

/-- Why a command line leads to no command: help is asked for, or there is a fault. -/
inductive Stop where
  | help
  | fault (program : String) (f : UsageFault)
deriving DecidableEq, Repr

end ParseBench.CommandLine
