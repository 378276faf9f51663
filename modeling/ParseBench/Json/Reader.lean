import ParseBench.Json.Token

set_option relaxedAutoImplicit false
set_option autoImplicit false

/-!
# Reading JSON

The grammar is a machine with a stack of the containers that are still open. It takes one token at a
time; the first token that does not fit is the fault that is reported.

## Main definitions

* `ParseBench.Json.State` — what has been read and what may come next.
* `ParseBench.Json.State.step` — one token.
* `ParseBench.Json.read` — the value of a text.
-/

namespace ParseBench.Json

open ParseBench.Text (Points)

/-- A container that is open around the value being read. -/
inductive Frame where
  /-- The items so far, the last one first. -/
  | array (items : List Value)
  /-- The fields so far, and the name of the field whose value is being read. -/
  | object (fields : List (Points × Value)) (key : Points)
deriving Repr

/-- What may come next, with the open containers from the innermost to the outermost. -/
inductive State where
  /-- A value. -/
  | value (stack : List Frame)
  /-- A value or the end of an array that has no items yet. -/
  | firstItem (stack : List Frame)
  /-- A comma or the end of the array. -/
  | afterItem (items : List Value) (stack : List Frame)
  /-- A name or the end of an object that has no fields yet. -/
  | firstKey (stack : List Frame)
  /-- A name. -/
  | nextKey (fields : List (Points × Value)) (stack : List Frame)
  /-- A colon. -/
  | colon (fields : List (Points × Value)) (key : Points) (stack : List Frame)
  /-- A comma or the end of the object. -/
  | afterField (fields : List (Points × Value)) (stack : List Frame)
  /-- Nothing. -/
  | done (v : Value)
deriving Repr

/-- How many containers may be open at once. -/
def maxDepth : Nat := 990

/-- The state after a complete value. -/
def State.plug (v : Value) : List Frame → State
  | [] => .done v
  | .array items :: stack => .afterItem (v :: items) stack
  | .object fields key :: stack => .afterField (setField key v fields) stack

/-- Opens a container. -/
def State.push (kind : Container) (stack : List Frame) (next : State) : Except Fault State :=
  if stack.length < maxDepth then .ok next else .error (.tooDeep kind)

/-- A token where a value has to come. -/
def State.readValue (offset : Nat) (stack : List Frame) : Token → Except Fault State
  | .scalar v => .ok (.plug v stack)
  | .text s => .ok (.plug (.text s) stack)
  | .int negative digits =>
    if digits.length > ParseBench.Text.maxDigits then .error (.tooManyDigits digits.length)
    else
      .ok (.plug (.int (ParseBench.Text.signed negative (ParseBench.Text.ofDigits 10 digits)))
        stack)
  | .openArray => State.push .array stack (.firstItem stack)
  | .openObject => State.push .object stack (.firstKey stack)
  | .badText cause at' => .error (.malformed cause (offset + at'))
  | _ => .error (.malformed .expectingValue offset)

/-- A token where the name of a field has to come. -/
def State.readKey (offset : Nat) (fields : List (Points × Value)) (stack : List Frame) :
    Token → Except Fault State
  | .text s => .ok (.colon fields s stack)
  | .badText cause at' => .error (.malformed cause (offset + at'))
  | _ => .error (.malformed .expectingPropertyName offset)

/-- Takes one token, which begins at `offset`. -/
def State.step (offset : Nat) (token : Token) : State → Except Fault State
  | .value stack => State.readValue offset stack token
  | .firstItem stack =>
    match token with
    | .closeArray => .ok (.plug (.array []) stack)
    | _ => State.readValue offset (.array [] :: stack) token
  | .afterItem items stack =>
    match token with
    | .closeArray => .ok (.plug (.array items.reverse) stack)
    | .comma => .ok (.value (.array items :: stack))
    | _ => .error (.malformed .expectingComma offset)
  | .firstKey stack =>
    match token with
    | .closeObject => .ok (.plug (.object []) stack)
    | _ => State.readKey offset [] stack token
  | .nextKey fields stack => State.readKey offset fields stack token
  | .colon fields key stack =>
    match token with
    | .colon => .ok (.value (.object fields key :: stack))
    | _ => .error (.malformed .expectingColon offset)
  | .afterField fields stack =>
    match token with
    | .closeObject => .ok (.plug (.object fields) stack)
    | .comma => .ok (.nextKey fields stack)
    | _ => .error (.malformed .expectingComma offset)
  | .done _ => .error (.malformed .extraData offset)

/-- The end of the text at `offset`. -/
def State.finish (offset : Nat) : State → Except Fault Value
  | .value _ | .firstItem _ => .error (.malformed .expectingValue offset)
  | .afterItem .. | .afterField .. => .error (.malformed .expectingComma offset)
  | .firstKey _ | .nextKey .. => .error (.malformed .expectingPropertyName offset)
  | .colon .. => .error (.malformed .expectingColon offset)
  | .done v => .ok v

/-- Runs the machine from `offset` on; `skip` characters belong to the token already taken. -/
def run (offset skip : Nat) (state : State) : List Char → Except Fault Value
  | [] => state.finish offset
  | c :: rest =>
    match skip with
    | skip + 1 => run (offset + 1) skip state rest
    | 0 =>
      if isBlank c then run (offset + 1) 0 state rest
      else
        let (token, more) := Token.read c rest
        match state.step offset token with
        | .error fault => .error fault
        | .ok state => run (offset + 1) more state rest

/-- The value of a list of characters. -/
def readChars : List Char → Except Fault Value
  | '\uFEFF' :: _ => .error (.malformed .byteOrderMark 0)
  | s => run 0 0 (.value []) s

/-- The value of a text. -/
def read (s : String) : Except Fault Value :=
  readChars s.toList

end ParseBench.Json
