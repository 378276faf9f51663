import ParseBench.Binding.Outcome

set_option relaxedAutoImplicit false
set_option autoImplicit false

/-!
# Faults raised by a binding

Instead of answering, a binding can raise a fault of a named class with arguments. The arguments
decide the fault's text. Three families of classes read their arguments:

* an operating-system fault has an error number, a reason and up to two file names, and its number
  can also decide its class;
* a syntax fault has a text and a place in a file;
* an encoding fault has a range of characters that cannot be encoded.

## Main definitions

* `ParseBench.Binding.Fault` — a fault.
* `ParseBench.Binding.Fault.className` — its class.
* `ParseBench.Binding.Fault.message` — its text.
* `ParseBench.Binding.Fault.uncatchable` — whether it ends the program rather than the parse.
-/

namespace ParseBench.Binding

open ParseBench.Text

/-- A fault, as it was raised. -/
structure Fault where
  raisedAs : String
  arguments : List Raw
deriving Repr

/-- A fault of a class with a text. -/
def Fault.ofText (className text : String) : Fault := ⟨className, [.text text]⟩

/-- The classes that signal the end of the program rather than an error. -/
def uncatchableClasses : List String :=
  ["BaseException", "KeyboardInterrupt", "SystemExit", "GeneratorExit"]

/-- Whether a fault ends the program rather than the parse. -/
def Fault.uncatchable (f : Fault) : Bool :=
  uncatchableClasses.contains f.raisedAs

/-- Whether a fault stops everything that is under way at once. -/
def Fault.stopsAtOnce (f : Fault) : Bool :=
  f.raisedAs == "KeyboardInterrupt" || f.raisedAs == "SystemExit"

/-- The fault that awaiting a coroutine gives: the end-of-iteration signal cannot pass through. -/
def Fault.awaited (f : Fault) : Fault :=
  if f.raisedAs == "StopIteration" then
    .ofText "RuntimeError" "coroutine raised StopIteration"
  else f

/-- Why a fault has no text. -/
inductive TextlessFault where
  /-- An argument has no display. -/
  | display (fault : DisplayFault)
  /-- The range of characters starts in front of the text. -/
  | outOfRange
deriving DecidableEq, Repr

/-- The wording of the lack of a text. -/
def TextlessFault.message : TextlessFault → String
  | .display fault => fault.message
  | .outOfRange => "string index out of range"

/-! ## Arguments -/

/-- Whether a value counts as a number. -/
def Raw.isNumber : Raw → Bool
  | .bool _ | .int _ | .float _ => true
  | _ => false

/-- The integer that a value is; truth values are one and zero. -/
def Raw.index? : Raw → Option Int
  | .bool b => some (if b then 1 else 0)
  | .int n => some n
  | _ => .none

/-- Whether an integer fits into a machine word with a sign. -/
def fitsWord (n : Int) : Bool := -Int.ofNat (Nat.pow 2 63) ≤ n && n < Int.ofNat (Nat.pow 2 63)

/-- A value that is not the missing one. -/
def Raw.present? : Raw → Option Raw
  | .none => .none
  | v => some v

/-- The display of a value within a text. -/
def shownPart (v : Raw) : Except TextlessFault String := v.shown.mapError .display

/-- A value within a text. -/
def textPart (v : Raw) : Except TextlessFault String := v.text?.mapError .display

/-- The arguments as a text: one is shown plainly, several in round brackets. -/
def argumentsText : List Raw → Except TextlessFault String
  | [] => .ok ""
  | [v] => textPart v
  | vs => do return shownTuple (← vs.mapM shownPart)

/-! ## Operating-system faults -/

/-- The classes of operating-system faults by their error numbers. -/
def osClasses : List (Int × String) :=
  [(1, "PermissionError"), (2, "FileNotFoundError"), (3, "ProcessLookupError"),
   (4, "InterruptedError"), (10, "ChildProcessError"), (11, "BlockingIOError"),
   (13, "PermissionError"), (17, "FileExistsError"), (20, "NotADirectoryError"),
   (21, "IsADirectoryError"), (32, "BrokenPipeError"), (103, "ConnectionAbortedError"),
   (104, "ConnectionResetError"), (108, "BrokenPipeError"), (110, "TimeoutError"),
   (111, "ConnectionRefusedError"), (114, "BlockingIOError"), (115, "BlockingIOError")]

/-- The names of the general class of operating-system faults. -/
def osNames : List String := ["OSError", "IOError", "EnvironmentError"]

/-- Whether a class is one of the operating-system faults. -/
def isOsClass (name : String) : Bool :=
  osNames.contains name || name == "ConnectionError" || osClasses.any (·.2 == name)

/-- Whether arguments are an error number, a reason and possibly file names. -/
def isOsArguments (arguments : List Raw) : Bool :=
  2 ≤ arguments.length && arguments.length ≤ 5

/-- The class of a fault. -/
def Fault.className (f : Fault) : String :=
  if osNames.contains f.raisedAs then
    if isOsArguments f.arguments then
      match f.arguments.head?.bind Raw.index? with
      | some n => (osClasses.lookup n).getD "OSError"
      | none => "OSError"
    else "OSError"
  else f.raisedAs

/-- The class whose third argument can be the number of characters that were written. -/
def partialWriteClass : String := "BlockingIOError"

/-- The number of characters written that an operating-system fault reports. -/
def Fault.written? (f : Fault) : Option Raw :=
  if f.className == partialWriteClass && isOsArguments f.arguments then
    (f.arguments[2]?).filter Raw.isNumber
  else none

/-- The file names of an operating-system fault: without a first one there is no second one. -/
def Fault.fileNames (f : Fault) : List Raw :=
  if f.written?.isSome then []
  else match (f.arguments[2]?).bind Raw.present? with
    | none => []
    | some file => file :: ((f.arguments[4]?).bind Raw.present?).toList

/-- The text of an operating-system fault. -/
def osText (number reason : Raw) (files : List Raw) : Except TextlessFault String := do
  let head := "[Errno " ++ (← textPart number) ++ "] " ++ (← textPart reason)
  match ← files.mapM shownPart with
  | [] => return head
  | shown => return head ++ ": " ++ " -> ".intercalate shown

/-! ## Syntax faults -/

/-- The classes of syntax faults. -/
def syntaxClasses : List String := ["SyntaxError", "IndentationError", "TabError"]

/-- The part of a path after the last slash. -/
def lastSegment (path : List Char) : List Char :=
  (path.reverse.takeWhile (· != '/')).reverse

/-- The line of a syntax fault; a line that fits no machine word is shown as minus one. -/
def lineText (n : Int) : String := intText (if fitsWord n then n else -1)

/-- The place of a syntax fault: the name of a file, a line, or both. -/
def placeText (file line : Raw) : Option String :=
  let name := match file with
    | .text path => [String.ofList (lastSegment path.toList)]
    | _ => []
  let row := match line with
    | .int n => ["line " ++ lineText n]
    | _ => []
  match name ++ row with
  | [] => none
  | parts => some (" (" ++ ", ".intercalate parts ++ ")")

/-- The text of a syntax fault. Only two arguments give a place. -/
def syntaxText : List Raw → Except TextlessFault String
  | [] => .ok "None"
  | [text, place] => do
    match place.elements with
    | .ok (file :: line :: _) => return (← textPart text) ++ (placeText file line).getD ""
    | _ => textPart text
  | text :: _ => textPart text

/-! ## Encoding faults -/

/-- A character by its code, in the shortest of the forms of two, four and eight hexadecimal
digits. -/
def escapedCode (c : Char) : String :=
  let n := c.toNat
  String.ofList ('\\' ::
    (if n < 0x100 then 'x' :: hexDigits 2 n
    else if n < 0x10000 then 'u' :: hexDigits 4 n
    else 'U' :: hexDigits 8 n))

/-- The range of characters that an encoding fault reports: a single character is shown, several are
counted from the first to the last. -/
def rangeText (text : String) (start stop : Int) : Except TextlessFault String :=
  if start < text.length ∧ stop = start + 1 then
    if start < 0 then .error .outOfRange
    else match text.toList[start.toNat]? with
      | some c => .ok ("character '" ++ escapedCode c ++ "' in position " ++ intText start)
      | none => .error .outOfRange
  else .ok ("characters in position " ++ intText start ++ "-" ++ intText (Int.bmod (stop - 1) (Nat.pow 2 64)))

/-! ## Texts -/

/-- The text of a fault. -/
def Fault.message (f : Fault) : Except TextlessFault String :=
  if isOsClass f.raisedAs && isOsArguments f.arguments then
    match f.arguments with
    | number :: reason :: _ => osText number reason f.fileNames
    | _ => argumentsText f.arguments
  else if syntaxClasses.contains f.raisedAs then syntaxText f.arguments
  else match f.raisedAs, f.arguments with
    | "KeyError", [v] => shownPart v
    | "UnicodeEncodeError", [.text encoding, .text text, start, stop, .text reason] => do
      let range ← rangeText text (start.index?.getD 0) (stop.index?.getD 0)
      return "'" ++ encoding ++ "' codec can't encode " ++ range ++ ": " ++ reason
    | "UnicodeTranslateError", [.text text, start, stop, .text reason] => do
      let range ← rangeText text (start.index?.getD 0) (stop.index?.getD 0)
      return "can't translate " ++ range ++ ": " ++ reason
    | _, arguments => argumentsText arguments

end ParseBench.Binding
