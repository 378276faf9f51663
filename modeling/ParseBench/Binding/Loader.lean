import ParseBench.Binding.Parser
import ParseBench.Text.Newlines

set_option relaxedAutoImplicit false
set_option autoImplicit false

/-!
# Loading bindings

Bindings are found by dotted names. None of the modules that can be found contains others, so below
an existing module nothing is found.

## Main definitions

* `ParseBench.Binding.Library` — the bindings that can be found.
* `ParseBench.Binding.load` — the parser of a name.
-/

namespace ParseBench.Binding

open ParseBench.Text (quoted splitOnChar)

/-- The bindings that can be found, by name. -/
abbrev Library := List (String × Binding)

/-- Why no binding is found. -/
inductive ImportFault where
  /-- There is no module of this name. -/
  | noModule (name : String)
  /-- There is no module of this name, the one above it being no package. -/
  | notPackage (name above : String)
deriving DecidableEq, Repr

/-- The wording of a fault. -/
def ImportFault.message : ImportFault → String
  | .noModule name => "No module named " ++ quoted name
  | .notPackage name above =>
    "No module named " ++ quoted name ++ "; " ++ quoted above ++ " is not a package"

/-- Why a parser is not available. -/
inductive Unavailable where
  | cannotImport (name : String) (fault : ImportFault)
  | lacks (name : String) (missing : List String)
deriving DecidableEq, Repr

/-- The wording of an unavailable parser. -/
def Unavailable.message : Unavailable → String
  | .cannotImport name fault =>
    "cannot import parser binding " ++ quoted name ++ ": " ++ fault.message
  | .lacks name missing => "binding " ++ name ++ " lacks " ++ ", ".intercalate missing

/-- What can end the loading of a parser. -/
inductive LoadAbort where
  | unavailable (u : Unavailable)
  /-- The name is empty. -/
  | emptyName
  /-- The name begins with a dot. -/
  | relativeName (name : String)
deriving DecidableEq, Repr

/-- The wording of what ended the loading. -/
def LoadAbort.message : LoadAbort → String
  | .unavailable u => u.message
  | .emptyName => "Empty module name"
  | .relativeName name =>
    "the 'package' argument is required to perform a relative import for " ++ quoted name

/-- The names of a module and of those above it, from the outermost on. -/
def dottedNames (name : String) : List String :=
  let pieces := (splitOnChar '.' name.toList).map String.ofList
  (List.range pieces.length).map fun n => ".".intercalate (pieces.take (n + 1))

/-- The fault of a name that is not found, given the names from the outermost on and the innermost
module found so far: the name below the innermost module of all that is found. -/
def importFault (library : Library) (above : Option String) : List String → ImportFault
  | [] => .noModule (above.getD "")
  | name :: rest =>
    if (library.lookup name).isSome then importFault library (some name) rest
    else if rest.any fun n => (library.lookup n).isSome then importFault library above rest
    else match above with
      | some found => .notPackage name found
      | none => .noModule name

/-- The parser of a binding. -/
def parserOf (b : Binding) : Except Unavailable Parser :=
  (Parser.ofBinding b).mapError (.lacks b.name)

/-- Finds the binding of a name and makes a parser of it. -/
def load (library : Library) (name : String) : Act LoadAbort Parser := do
  if name.toList.head? == some '.' then throw (.relativeName name)
  else if name == "" then throw .emptyName
  else match library.lookup name with
    | none => throw (.unavailable (.cannotImport name (importFault library none (dottedNames name))))
    | some b =>
      Act.log .parser .debug ("Loaded parser binding " ++ name)
      Act.ofExcept ((parserOf b).mapError .unavailable)

end ParseBench.Binding
