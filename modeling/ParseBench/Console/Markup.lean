import ParseBench.Console.Emoji
import ParseBench.Console.StyledText

set_option relaxedAutoImplicit false
set_option autoImplicit false

/-!
# Markup

Titles and headers may hold tags in brackets, which open and close styles. A backslash before a tag
takes its meaning from it, and a pair of backslashes before a tag stands for one.

## Main definitions

* `ParseBench.Console.Markup.escape` — the markup that shows a text as it is.
* `ParseBench.Console.Markup.pieces` — the texts and the tags of a markup.
* `ParseBench.Console.Markup.read` — the text of a markup with its styles.
* `ParseBench.Console.Markup.Fault` — why a markup has no text.
-/

namespace ParseBench.Console.Markup

open ParseBench.Text (IntegerFault trimSpace)

/-! ## Tags -/

/-- The tag that follows an opening bracket: a small letter or one of `#`, `/` and `@`, and then
everything up to the closing bracket. No other bracket is opened in between. -/
def tagAhead? : List Char → Option (List Char)
  | [] => none
  | c :: rest =>
    if ('a' ≤ c && c ≤ 'z') || c == '#' || c == '/' || c == '@' then
      match rest.span fun d => d != '[' && d != ']' with
      | (inner, ']' :: _) => some (c :: inner)
      | _ => none
    else none

/-- The characters of a tag with its brackets. -/
def bracketed (tag : List Char) : List Char := '[' :: tag ++ [']']

/-- A number of backslashes. -/
def backslashes (n : Nat) : List Char := List.replicate n '\\'

/-- Escapes every tag; `slashes` backslashes have come directly before. -/
def escapeTags (slashes : Nat) : List Char → List Char
  | [] => []
  | c :: rest =>
    if c == '\\' then c :: escapeTags (slashes + 1) rest
    else if c == '[' && (tagAhead? rest).isSome then backslashes (slashes + 1) ++ c :: escapeTags 0 rest
    else c :: escapeTags 0 rest

/-- The markup that shows a text as it is. A single backslash at the end is doubled. -/
def escape (s : List Char) : List Char :=
  let s := escapeTags 0 s
  if (s.reverse.takeWhile (· == '\\')).length == 1 then s ++ ['\\'] else s

/-! ## Pieces -/

/-- A piece of a markup. -/
inductive Piece where
  | text (chars : List Char)
  | tag (position : Nat) (chars : List Char)
deriving DecidableEq, Repr

/-- A piece of text, unless it is empty. -/
def textPiece (chars : List Char) : List Piece := if chars.isEmpty then [] else [.text chars]

/-- The pieces of a markup from a position on. `skip` characters belong to a tag already found,
`slashes` backslashes come directly before, and `before` is the text since the last piece without
them, in reverse. -/
def piecesFrom (position skip slashes : Nat) (before : List Char) : List Char → List Piece
  | [] => textPiece (before.reverse ++ backslashes slashes)
  | c :: rest =>
    match skip with
    | skip + 1 => piecesFrom (position + 1) skip 0 [] rest
    | 0 =>
      if c == '\\' then piecesFrom (position + 1) 0 (slashes + 1) before rest
      else
        match (if c == '[' then tagAhead? rest else none) with
        | some tag =>
          textPiece before.reverse ++ textPiece (backslashes (slashes / 2)) ++
            (if slashes % 2 == 1 then .text (bracketed tag) else .tag position tag) ::
              piecesFrom (position + 1) (tag.length + 1) 0 [] rest
        | none => piecesFrom (position + 1) 0 0 (c :: backslashes slashes ++ before) rest

/-- The texts and the tags of a markup. -/
def pieces (s : List Char) : List Piece := piecesFrom 0 0 0 [] s

/-! ## Reading -/

/-- The controls that a terminal would act on; they are not shown. -/
def isControl (c : Char) : Bool :=
  c.toNat == 7 || c.toNat == 8 || c.toNat == 11 || c.toNat == 12 || c.toNat == 13

/-- A text as it is shown: emoji codes replaced, controls left out. -/
def shownText (s : List Char) : List Char := (replaceEmoji s).filter fun c => !isControl c

/-- A text without the backslashes before opening brackets. -/
def dropEscapes : List Char → List Char
  | [] => []
  | c :: rest => if c == '\\' && rest.head? == some '[' then dropEscapes rest else c :: dropEscapes rest

/-- Why a markup has no text. -/
inductive Fault where
  /-- No style is open where the last one is closed. -/
  | nothingOpen (position : Nat)
  /-- The style that is closed is not open. -/
  | notOpen (tag : List Char) (position : Nat)
  /-- A color is given by a share that is no number. -/
  | share (fault : IntegerFault)
deriving DecidableEq, Repr

/-- The wording of a fault. -/
def Fault.message : Fault → String
  | .nothingOpen position => "closing tag '[/]' at position " ++ position.repr ++ " has nothing to close"
  | .notOpen tag position =>
    "closing tag '" ++ String.ofList (bracketed tag) ++ "' at position " ++ position.repr ++
      " doesn't match any open tag"
  | .share fault => fault.message

/-- A style that is open: where it begins, its name, and what is given with the name. -/
structure Opened where
  start : Nat
  name : List Char
  given : Option (List Char)
deriving DecidableEq, Repr

/-- The style of a tag. One whose name begins with `@` only marks its text. -/
def Opened.style (o : Opened) : Except Fault Style :=
  if o.name.head? == some '@' then .ok .none
  else
    let definition := match o.given with
      | some given => o.name ++ ' ' :: given
      | none => o.name
    (Style.named definition).mapError .share

/-- What is read of a markup: its text, the styles that are open, the last one first, and the spans
of those that have been closed, the last one first. -/
structure Reading where
  chars : List Char
  opened : List Opened
  spans : List Span
deriving Repr

namespace Reading

/-- Ends a style here. -/
def finish (r : Reading) (o : Opened) : Except Fault Reading := do
  let style ← o.style
  return { r with spans := ⟨o.start, r.chars.length, style⟩ :: r.spans }

/-- The name of a tag, and what is given after an equals sign. -/
def splitTag (tag : List Char) : List Char × Option (List Char) :=
  match tag.span (· != '=') with
  | (name, _ :: given) => (name, some given)
  | (name, []) => (name, none)

/-- The standard form of the name of a style. -/
def standardName (name : List Char) : Except Fault (List Char) := (Style.normalise name).mapError .share

/-- Closes a style: the last one that is open, or the last one of a name. -/
def close (r : Reading) (tag name : List Char) (position : Nat) : Except Fault Reading := do
  if name.isEmpty then
    match r.opened with
    | [] => .error (.nothingOpen position)
    | o :: rest => finish { r with opened := rest } o
  else
    let name ← standardName name
    match r.opened.find? fun o => o.name == name with
    | none => .error (.notOpen tag position)
    | some o => finish { r with opened := r.opened.eraseP fun o => o.name == name } o

/-- Reads a piece. -/
def step (r : Reading) : Piece → Except Fault Reading
  | .text chars => .ok { r with chars := r.chars ++ shownText (dropEscapes chars) }
  | .tag position tag =>
    match splitTag tag with
    | ('/' :: name, _) => r.close tag (trimSpace name) position
    | (name, given) => do
      let name ← standardName name
      return { r with opened := ⟨r.chars.length, name, given⟩ :: r.opened }

end Reading

/-- The text of a markup with its styles. Spans are in the order of their beginnings, and of two
that begin at one place the one that ends later comes first. What is still open goes on to the
end. -/
def read (base : Option Style) (s : List Char) : Except Fault StyledText := do
  let r ← (pieces s).foldlM Reading.step ⟨[], [], []⟩
  let r ← r.opened.foldlM Reading.finish r
  return ⟨r.chars, base, r.spans.mergeSort fun a b => a.start ≤ b.start⟩

/-- The text of a markup that has been escaped; there are no tags in it. -/
def readEscaped (s : List Char) : StyledText :=
  .plain ((pieces s).flatMap fun
    | .text chars => shownText (dropEscapes chars)
    | .tag _ tag => shownText (bracketed tag))

/-- A text that is shown as it is, its emoji codes apart. -/
def literal (s : List Char) : StyledText := readEscaped (escape s)

end ParseBench.Console.Markup
