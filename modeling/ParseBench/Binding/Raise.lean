import ParseBench.Binding.Fault

set_option relaxedAutoImplicit false
set_option autoImplicit false

/-!
# Raising a fault

Some classes of faults check their arguments. A fault that is raised with arguments that its class
refuses is replaced by the fault that says so.

## Main definitions

* `ParseBench.Binding.Refusal` — why arguments are refused.
* `ParseBench.Binding.refusal?` — the check of the arguments of a class.
* `ParseBench.Binding.Fault.raise` — the fault that arises when one is raised.
-/

namespace ParseBench.Binding

open ParseBench.Text

/-- Why a class refuses arguments. -/
inductive Refusal where
  /-- The number of arguments is wrong. -/
  | count (subject bound : String) (wanted given : Nat)
  /-- The argument at a position, counted from one, is a value of this kind and not a text. -/
  | notText (subject : String) (position : Nat) (kind : String)
  /-- A value of this kind is no integer. -/
  | notInteger (kind : String)
  /-- An integer fits no machine word. -/
  | tooLarge
  /-- A count fits no machine word. -/
  | countTooLarge
  /-- A value of this kind is no sequence of bytes. -/
  | notBytes (kind : String)
  /-- A value of this kind has no elements. -/
  | notIterable (kind : String)
  /-- The end of a place has a line and no column. -/
  | noEndColumn
  /-- The members of a group are no sequence. -/
  | groupNotSequence
  /-- A group has no members. -/
  | groupEmpty
  /-- The first member of a group is no fault. -/
  | groupMember
deriving DecidableEq, Repr

/-- The class of the fault that a refusal is. -/
def Refusal.className : Refusal → String
  | .tooLarge => "OverflowError"
  | .countTooLarge | .groupEmpty | .groupMember => "ValueError"
  | _ => "TypeError"

/-- The wording of a refusal. -/
def Refusal.message : Refusal → String
  | .count subject bound wanted given =>
    subject ++ " takes " ++ bound ++ " " ++ wanted.repr ++ " arguments (" ++ given.repr ++ " given)"
  | .notText subject position kind =>
    subject ++ "argument " ++ position.repr ++ " must be str, not " ++ kind
  | .notInteger kind => "'" ++ kind ++ "' object cannot be interpreted as an integer"
  | .tooLarge => "Python int too large to convert to C ssize_t"
  | .countTooLarge => "cannot fit 'int' into an index-sized integer"
  | .notBytes kind => "a bytes-like object is required, not '" ++ kind ++ "'"
  | .notIterable kind => "'" ++ kind ++ "' object is not iterable"
  | .noEndColumn => "end_offset must be provided when end_lineno is provided"
  | .groupNotSequence => "second argument (exceptions) must be a sequence"
  | .groupEmpty => "second argument (exceptions) must be a non-empty sequence"
  | .groupMember => "Item 0 of second argument (exceptions) is not an exception"

/-- The fault that a refusal is. -/
def Refusal.fault (r : Refusal) : Fault := .ofText r.className r.message

/-! ## Encoding faults -/

/-- What a class wants at the place of an argument. -/
inductive Slot where
  | text
  | integer
  | anything
deriving DecidableEq, Repr

/-- The kind of a value as a refusal of a text names it. -/
def Raw.refusedKind : Raw → String
  | .none => "None"
  | v => v.qualifiedKind

/-- The refusal of an argument at a position. -/
def Slot.refusal? (slot : Slot) (subject : String) (position : Nat) (v : Raw) : Option Refusal :=
  match slot with
  | .anything => none
  | .text =>
    match v with
    | .text _ => none
    | v => some (.notText subject position v.refusedKind)
  | .integer =>
    match v.index? with
    | some n => if fitsWord n then none else some .tooLarge
    | none => some (.notInteger v.qualifiedKind)

/-- The refusal of the first argument that does not suit its slot; positions start at `position`. -/
def firstRefusal? (subject : String) (position : Nat) : List Slot → List Raw → Option Refusal
  | slot :: slots, v :: vs =>
    (slot.refusal? subject position v).or (firstRefusal? subject (position + 1) slots vs)
  | _, _ => none

/-- The refusal of arguments that do not suit a list of slots. -/
def slotsRefusal? (slots : List Slot) (arguments : List Raw) : Option Refusal :=
  if arguments.length = slots.length then firstRefusal? "" 1 slots arguments
  else some (.count "function" "exactly" slots.length arguments.length)

/-- The check of a fault of decoding, whose second argument has to be bytes; no argument is. -/
def decodeRefusal? (arguments : List Raw) : Option Refusal :=
  (slotsRefusal? [.text, .anything, .integer, .integer, .text] arguments).or
    ((arguments[1]?).map fun v => .notBytes v.qualifiedKind)

/-! ## Syntax faults -/

/-- The check of a syntax fault: the second of two arguments is a place of four to six parts. -/
def syntaxRefusal? : List Raw → Option Refusal
  | [_, place] =>
    match place with
    | .list _ | .text _ | .record _ =>
      match place.elements with
      | .ok parts =>
        if parts.length < 4 then some (.count "function" "at least" 4 parts.length)
        else if 6 < parts.length then some (.count "function" "at most" 6 parts.length)
        else if parts.length = 5 then some .noEndColumn
        else none
      | .error _ => none
    | v => some (.notIterable v.qualifiedKind)
  | _ => none

/-! ## Groups -/

/-- The classes of groups of faults. -/
def groupClasses : List String := ["ExceptionGroup", "BaseExceptionGroup"]

/-- The check of a group: its members have to be faults, and no argument is one. -/
def groupRefusal (arguments : List Raw) : Refusal :=
  let subject := "BaseExceptionGroup.__new__()"
  match arguments with
  | [text, members] =>
    match Slot.text.refusal? (subject ++ " ") 1 text with
    | some r => r
    | none =>
      match members with
      | .list [] | .text "" => .groupEmpty
      | .list _ | .text _ => .groupMember
      | _ => .groupNotSequence
  | _ => .count subject "exactly" 2 arguments.length

/-! ## All classes -/

/-- The check of the number of written characters that an operating-system fault reports. -/
def writtenRefusal? (f : Fault) : Option Refusal :=
  f.written?.bind fun v =>
    match v.index? with
    | some n => if fitsWord n then none else some .countTooLarge
    | none => some (.notInteger v.qualifiedKind)

/-- Why the class of a fault refuses its arguments, if it does. -/
def refusal? (f : Fault) : Option Refusal :=
  if isOsClass f.raisedAs then writtenRefusal? f
  else if syntaxClasses.contains f.raisedAs then syntaxRefusal? f.arguments
  else if groupClasses.contains f.raisedAs then some (groupRefusal f.arguments)
  else match f.raisedAs with
    | "UnicodeEncodeError" =>
      slotsRefusal? [.text, .text, .integer, .integer, .text] f.arguments
    | "UnicodeDecodeError" => decodeRefusal? f.arguments
    | "UnicodeTranslateError" => slotsRefusal? [.text, .integer, .integer, .text] f.arguments
    | _ => none

/-- The fault that arises when a class is raised with arguments. -/
def Fault.raise (className : String) (arguments : List Raw) : Fault :=
  let f : Fault := ⟨className, arguments⟩
  match refusal? f with
  | some r => r.fault
  | none => f

end ParseBench.Binding
