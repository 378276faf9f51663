import ParseBench.CommandLine.Grammar
import ParseBench.Text.DecimalDigit
import ParseBench.Url.Split

set_option relaxedAutoImplicit false
set_option autoImplicit false

/-!
# The words of a command line

Each word is a setting, possibly with a value after an equals sign, or a plain word. A long name may
be abbreviated as long as it is the only one that begins so; short names may be written together.
Two dashes make all words after them plain.

## Main definitions

* `ParseBench.CommandLine.Word` — a word, by its role.
* `ParseBench.CommandLine.classifyAll` — the roles of words.
* `ParseBench.CommandLine.takeAll` — the settings, the free argument and what is left over.
-/

namespace ParseBench.CommandLine

/-- A word, by its role. -/
inductive Word where
  | plain (text : String)
  | dashes
  /-- A setting under one of its names, possibly with a value in the same word. -/
  | known (text : String) (s : Setting) (name : String) (value : Option String)
  /-- A word that looks like a setting and is none. -/
  | unknown (text : String)
deriving DecidableEq, Repr

/-- A word as it was written. -/
def Word.text : Word → String
  | .plain text => text
  | .dashes => "--"
  | .known text _ _ _ => text
  | .unknown text => text

/-! ## Roles -/

/-- Whether a text is a dash and a number: digits of any script, possibly with a point among them or
in front. A line break at the end does not count. -/
def isNegativeNumber (s : List Char) : Bool :=
  let isDigit := fun c => (Text.decimalDigit? c).isSome
  let body := if s.getLast? == some '\n' then s.dropLast else s
  match body with
  | '-' :: number =>
    match number.dropWhile isDigit with
    | [] => !number.isEmpty
    | '.' :: part => !part.isEmpty && part.all isDigit
    | _ => false
  | _ => false

/-- What a word could mean that is no full name: the names that it abbreviates, or short names
written together. -/
def candidates (g : Grammar) (text : String) : List Word :=
  let s := text.toList
  if s.take 2 == ['-', '-'] then
    let (front, value) := s.span (· != '=')
    let value := match value with
      | _ :: v => some (String.ofList v)
      | [] => none
    (g.names.filter fun (n, _) => front.isPrefixOf n.toList).map fun (n, setting) =>
      .known text setting n value
  else
    g.names.filterMap fun (n, setting) =>
      if n.toList == s.take 2 then some (.known text setting n (some (String.ofList (s.drop 2))))
      else if s.isPrefixOf n.toList then some (.known text setting n none)
      else none

/-- The name under which a word gives its setting. -/
def Word.name : Word → String
  | .known _ _ name _ => name
  | w => w.text

/-- The role of a word that begins with a dash and is no full name. -/
def classifyOther (g : Grammar) (text : String) : Except UsageFault Word :=
  match candidates g text with
  | [w] => .ok w
  | [] =>
    if isNegativeNumber text.toList || text.toList.contains ' ' then .ok (.plain text)
    else .ok (.unknown text)
  | ws => .error (.ambiguous text (ws.map Word.name))

/-- The role of a word. -/
def classify (g : Grammar) (text : String) : Except UsageFault Word :=
  match text.toList with
  | '-' :: rest =>
    match g.setting? text with
    | some s => .ok (.known text s text none)
    | none =>
      if rest.isEmpty then .ok (.plain text)
      else
        let (front, value) := Url.cutAt '=' text.toList
        match g.setting? (String.ofList front) with
        | some s => .ok (.known text s (String.ofList front) (some (String.ofList value)))
        | none => classifyOther g text
  | _ => .ok (.plain text)

/-- The roles of words, up to the first fault. -/
def classifyAll (g : Grammar) : List String → Except UsageFault (List Word)
  | [] => .ok []
  | text :: rest =>
    if text == "--" then .ok (.dashes :: rest.map Word.plain)
    else do
      let w ← classify g text
      return w :: (← classifyAll g rest)

/-! ## Settings and the free argument -/

/-- What a command line holds. -/
structure Taken where
  /-- The settings in order, with their values. -/
  settings : List (Setting × String)
  /-- The words of the free argument. -/
  free : Option (List String)
  /-- The words that are left over. -/
  rest : List String
deriving DecidableEq, Repr

/-- Nothing but the free argument. -/
def Taken.ofFree (free : Option (List String)) : Taken := ⟨[], free, []⟩

/-- Adds a setting in front. -/
def Taken.withSettings (t : Taken) (settings : List (Setting × String)) : Taken :=
  { t with settings := settings ++ t.settings }

/-- Adds a word that is left over in front. -/
def Taken.withRest (t : Taken) (word : String) : Taken := { t with rest := word :: t.rest }

/-- Gives a setting a value. -/
def give (g : Grammar) (s : Setting) (value : String) : Except Stop (List (Setting × String)) :=
  if s = .help then .error .help
  else if !s.choices.isEmpty && !s.choices.contains value then
    .error (.fault g.program (.badChoice s.title value s.choices))
  else .ok [(s, value)]

/-- The settings of short names written together, of which the first is `s`. -/
def together (g : Grammar) (s : Setting) : List Char → Except UsageFault (List Setting)
  | [] => .ok [s]
  | c :: rest =>
    match g.setting? (String.ofList ['-', c]) with
    | some next => do return s :: (← together g next rest)
    | none => .error (.ignoredValue s (String.ofList (c :: rest)))

/-- Gives settings that take no values. -/
def giveAll (g : Grammar) (settings : List Setting) : Except Stop (List (Setting × String)) := do
  return (← settings.mapM fun s => give g s "").flatten

/-- Takes a setting that has a value in its own word. -/
def giveJoined (g : Grammar) (s : Setting) (name value : String) :
    Except Stop (List (Setting × String)) :=
  if s.takesValue then give g s value
  else if name.toList.take 2 == ['-', '-'] || value == "" then
    .error (.fault g.program (.ignoredValue s value))
  else match together g s value.toList with
    | .error f => .error (.fault g.program f)
    | .ok settings => giveAll g settings

/-- Takes words from the front. The first plain word is the free argument, if one is allowed; a
command takes all words after it, too. -/
def takeAll (g : Grammar) (free : Option (List String)) : List Word → Except Stop Taken
  | [] => .ok (.ofFree free)
  | .unknown text :: rest => do return (← takeAll g free rest).withRest text
  | .known _ s name (some value) :: rest => do
    let given ← giveJoined g s name value
    return (← takeAll g free rest).withSettings given
  | .known _ s _ none :: rest =>
    if s.takesValue then
      match rest with
      | .plain value :: rest => do
        let given ← give g s value
        return (← takeAll g free rest).withSettings given
      | _ => .error (.fault g.program (.noValue s))
    else do
      let given ← give g s ""
      return (← takeAll g free rest).withSettings given
  | .plain text :: rest =>
    match g.free, free with
    | .command, none => .ok (.ofFree (some (text :: rest.map Word.text)))
    | .file, none =>
      match rest with
      | .dashes :: rest => takeAll g (some [text]) rest
      | rest => takeAll g (some [text]) rest
    | _, _ => do return (← takeAll g free rest).withRest text
  | .dashes :: rest =>
    match g.free, free, rest with
    | .command, none, .plain text :: rest =>
      .ok (.ofFree (some ("--" :: text :: rest.map Word.text)))
    | .file, none, .plain text :: rest => takeAll g (some [text]) rest
    | _, _, rest => do return (← takeAll g free rest).withRest "--"

/-- What a command line holds under a grammar. A free argument that is allowed has to be there. -/
def Grammar.take (g : Grammar) (words : List String) : Except Stop Taken := do
  let ws ← (classifyAll g words).mapError (.fault g.program)
  let taken ← takeAll g none ws
  match g.free, taken.free with
  | .file, none => .error (.fault g.program (.missing "file"))
  | .command, none => .error (.fault g.program (.missing "command"))
  | _, _ => return taken

end ParseBench.CommandLine
