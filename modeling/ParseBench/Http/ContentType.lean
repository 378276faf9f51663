import ParseBench.Text.Charset
import ParseBench.Text.Newlines
import ParseBench.Text.Spacing

set_option relaxedAutoImplicit false
set_option autoImplicit false

/-!
# The type of a content

The header field for the type of a content has parameters behind semicolons, one of which may
announce a charset. A value may be cut into sections, which bear numbers and may come in any order;
sections may escape characters, and then the whole value begins with its own charset and language.

## Main definitions

* `ParseBench.Http.Parameter` — a parameter.
* `ParseBench.Http.parameters` — the parameters of a header field, their sections joined.
* `ParseBench.Http.charsetLabel?` — the label of the charset that a header field announces.
* `ParseBench.Http.TypeFault` — why the parameters cannot be read.
-/

namespace ParseBench.Http

open ParseBench.Text (Charset splitOnChar trimSpace)

/-! ## Fields -/

/-- Cuts the parameters of a header field at the semicolons outside quotation marks. A backslash
takes away the meaning of a quotation mark after it. -/
def cutParameters (inside escaped : Bool) : List Char → List (List Char)
  | [] => [[]]
  | c :: rest =>
    let toggles := c == '"' && !escaped
    let inside' := if toggles then !inside else inside
    if c == ';' && !inside then [] :: cutParameters false false rest
    else match cutParameters inside' (c == '\\') rest with
      | [] => [[c]]
      | part :: parts => (c :: part) :: parts

/-- A name and a value as they are written. A name without a value keeps its case. -/
def fieldOf (s : List Char) : List Char × List Char :=
  match s.span (· != '=') with
  | (name, _ :: value) => ((trimSpace name).map Char.toLower, trimSpace value)
  | (name, []) => (trimSpace name, [])

/-- A text in which a character stands for a backslash and that character. -/
def dropBackslashes (marked : Char) : List Char → List Char
  | '\\' :: c :: rest =>
    if c == marked then c :: dropBackslashes marked rest else '\\' :: dropBackslashes marked (c :: rest)
  | c :: rest => c :: dropBackslashes marked rest
  | [] => []

/-- A value without the quotation marks or angle brackets around it. -/
def unquoted (s : List Char) : List Char :=
  let between := (s.drop 1).dropLast
  if 2 ≤ s.length && s.head? == some '"' && s.getLast? == some '"' then
    dropBackslashes '"' (dropBackslashes '\\' between)
  else if 2 ≤ s.length && s.head? == some '<' && s.getLast? == some '>' then between
  else s

/-! ## Sections -/

/-- A section of a value: its number, if it has one, its text, and whether characters are escaped in
it. -/
structure Section where
  number : Option Nat
  text : List Char
  escaped : Bool
deriving DecidableEq, Repr

/-- Why the parameters of a header field cannot be read. -/
inductive TypeFault where
  /-- The number of a section has too many digits. -/
  | number (fault : Text.IntegerFault)
  /-- Of the sections of a value some have numbers and some have none; the flag says that the first
  to differ from those before it has one. -/
  | mixedSections (laterNumbered : Bool)
  /-- The label of a charset holds a null character. -/
  | nulLabel
deriving DecidableEq, Repr

/-- The wording of a fault. -/
def TypeFault.message : TypeFault → String
  | .number fault => fault.message
  | .mixedSections true => "'<' not supported between instances of 'int' and 'NoneType'"
  | .mixedSections false => "'<' not supported between instances of 'NoneType' and 'int'"
  | .nulLabel => "embedded null character"

/-- Whether a character may stand in the name of a value with sections. -/
def isWordChar (c : Char) : Bool := c.isAlphanum || c == '_'

/-- The digits of a section's number, and whether a star follows them. -/
def numberOf? (s : List Char) : Option (List Char) :=
  match s.span Char.isDigit with
  | (digits, []) | (digits, ['*']) => if digits.isEmpty then none else some digits
  | _ => none

/-- The name of the value that a field is a section of, and the digits of its number, if it has
one. -/
def sectionName? (name : List Char) : Option (List Char × Option (List Char)) :=
  match name.span isWordChar with
  | (base, '*' :: rest) =>
    if base.isEmpty then none
    else if rest.isEmpty then some (base, none)
    else (numberOf? rest).map fun digits => (base, some digits)
  | _ => none

/-- The section of a field. -/
def sectionOf (digits : Option (List Char)) (text : List Char) (escaped : Bool) :
    Except TypeFault Section :=
  match digits with
  | none => .ok ⟨none, text, escaped⟩
  | some ds =>
    if Text.maxDigits < ds.length then .error (.number (.tooManyDigits ds.length))
    else .ok ⟨some (ds.foldl (fun n c => n * 10 + (c.toNat - 0x30)) 0), text, escaped⟩

/-- The kind of sections that is not that of the first, if there are both: whether it has
numbers. -/
def otherKind? (sections : List Section) : Option Bool :=
  match sections with
  | [] => none
  | s :: rest =>
    (rest.find? fun t => t.number.isSome != s.number.isSome).map fun t => t.number.isSome

/-- The order of sections: by number, then by text, then those without escapes first. -/
def Section.le (a b : Section) : Bool :=
  if a.number != b.number then a.number.getD 0 ≤ b.number.getD 0
  else if a.text != b.text then !List.lex b.text a.text fun c d => c.toNat < d.toNat
  else !a.escaped || b.escaped

/-- A text with its escapes resolved: a percent sign and two hexadecimal digits stand for a
character. -/
def resolveEscapes : List Char → List Char
  | '%' :: a :: b :: rest =>
    match Text.Charset.hexValue? a.toNat.toUInt8, Text.Charset.hexValue? b.toNat.toUInt8 with
    | some x, some y => Char.ofNat (x * 16 + y) :: resolveEscapes rest
    | _, _ => '%' :: resolveEscapes (a :: b :: rest)
  | c :: rest => c :: resolveEscapes rest
  | [] => []

/-! ## Parameters -/

/-- The value of a parameter. -/
inductive Value where
  | plain (text : List Char)
  /-- A value with escapes, and the label of the charset that its characters are bytes of. -/
  | extended (charset : Option (List Char)) (text : List Char)
deriving DecidableEq, Repr

/-- A parameter. -/
structure Parameter where
  name : List Char
  value : Value
deriving DecidableEq, Repr

/-- The charset and the text of a value with escapes: apostrophes set off the charset and a
language. -/
def extendedValue (s : List Char) : Value :=
  match splitOnChar '\x27' s with
  | charset :: _ :: first :: more => .extended (some charset) ((['\x27'] : List Char).intercalate (first :: more))
  | _ => .extended none s

/-- The value of sections. -/
def joinSections (sections : List Section) : Except TypeFault Value :=
  match otherKind? sections with
  | some numbered => .error (.mixedSections numbered)
  | none =>
    let sorted := sections.mergeSort Section.le
    let text := sorted.flatMap fun s => if s.escaped then resolveEscapes s.text else s.text
    .ok (if sorted.any (·.escaped) then extendedValue text else .plain text)

/-- Adds a section to those of its name. -/
def addSection (name : List Char) (s : Section) :
    List (List Char × List Section) → List (List Char × List Section)
  | [] => [(name, [s])]
  | (other, sections) :: rest =>
    if other == name then (other, sections ++ [s]) :: rest else (other, sections) :: addSection name s rest

/-- The parameters in one piece and the sections by name, of fields. -/
def sortFields : List (List Char × List Char) →
    Except TypeFault (List Parameter × List (List Char × List Section)) → 
    Except TypeFault (List Parameter × List (List Char × List Section))
  | [], done => done
  | (name, value) :: rest, done => do
    let (whole, cut) ← done
    match sectionName? name with
    | none => sortFields rest (.ok (whole ++ [⟨name, .plain (unquoted value)⟩], cut))
    | some (base, digits) =>
      let s ← sectionOf digits (unquoted value) (name.getLast? == some '*')
      sortFields rest (.ok (whole, addSection base s cut))

/-- The parameters of a header field: the first is taken as it is, then come those in one piece,
then those of sections. -/
def parameters (contentType : String) : Except TypeFault (List Parameter) :=
  match (cutParameters false false contentType.toList).map fieldOf with
  | [] => .ok []
  | (name, value) :: rest => do
    let (whole, cut) ← sortFields rest (.ok ([], []))
    let joined ← cut.mapM fun (name, sections) => return (⟨name, ← joinSections sections⟩ : Parameter)
    return ⟨name, .plain (unquoted value)⟩ :: whole ++ joined

/-! ## Charsets -/

/-- The charset that a label names; a null character in the label is refused. -/
def charsetNamed? (label : List Char) : Except TypeFault (Option Charset) :=
  if label.contains '\x00' then .error .nulLabel else .ok (Charset.ofLabel? (String.ofList label))

/-- The text of a value with escapes: its characters are the bytes of a text in its charset. Where
they are not, they stand for themselves. -/
def extendedText (charset : Option (List Char)) (text : List Char) : Except TypeFault (List Char) := do
  let label := match charset with
    | some (c :: cs) => c :: cs
    | _ => "us-ascii".toList
  let known ← charsetNamed? label
  if text.isEmpty then return []
  else return ((known.bind fun charset =>
    charset.strict? (text.map fun c => c.toNat.toUInt8)).map Text.Points.shape).getD text

/-- The label of the charset that a header field announces, if it is in ASCII. -/
def charsetLabel? (contentType : String) : Except TypeFault (Option (List Char)) := do
  match (← parameters contentType).find? fun p => p.name.map Char.toLower == "charset".toList with
  | none => return none
  | some p =>
    let label ← match p.value with
      | .plain text => Except.ok text
      | .extended charset text => extendedText charset text
    return if label.all fun c => c.toNat < 0x80 then some label else none

/-- The charset that a header field announces, if it is known. -/
def announced? (contentType : String) : Except TypeFault (Option Charset) := do
  match ← charsetLabel? contentType with
  | none => return none
  | some label => charsetNamed? label

end ParseBench.Http
