import ParseBench.Console.Grid
import ParseBench.Console.Highlight
import ParseBench.Console.Message
import ParseBench.Text.Newlines

set_option relaxedAutoImplicit false
set_option autoImplicit false

/-!
# Console output for terminals

Messages for a terminal of a known width, with or without colors. Widths are counted in cells, and
lines that do not fit are broken between words. Titles and headers are markup; all other texts are
shown as they are, their emoji codes apart.

## Main definitions

* `ParseBench.Console.Rich.Screen` — a terminal.
* `ParseBench.Console.Rich.Screen.written` — the text that is written for lines.
* `ParseBench.Console.Rich.render` — the text of a message.
-/

namespace ParseBench.Console.Rich

open ParseBench.Console.Markup (isControl shownText)

/-- A terminal. -/
structure Screen where
  width : Nat
  color : Bool
deriving DecidableEq, Repr

/-- The text that is written for lines, as much of them as the screen shows. A screen without any
cells shows none. -/
def Screen.written (screen : Screen) (lines : List Line) : String :=
  if screen.width == 0 then ""
  else String.ofList (lines.flatMap fun line => (Line.crop screen.width line).shown screen.color ++ ['\n'])

/-! ## Messages -/

/-- The kinds of messages that have a style. -/
inductive Tone where
  | info
  | success
  | warning
  | error
  | step
deriving DecidableEq, Repr

/-- The style of a kind of messages. -/
def Tone.style : Tone → Style
  | .info => ⟨[], some ⟨"blue", .number 4⟩, none, none⟩
  | .success => ⟨[(.bold, true)], some ⟨"green", .number 2⟩, none, none⟩
  | .warning => ⟨[(.bold, true)], some ⟨"yellow", .number 3⟩, none, none⟩
  | .error => ⟨[(.bold, true)], some ⟨"red", .number 1⟩, none, none⟩
  | .step => ⟨[(.bold, true)], some ⟨"cyan", .number 6⟩, none, none⟩

/-- The lines of a message. -/
def toneLines (width : Nat) (tone : Tone) (s : String) : List Line :=
  ((StyledText.plain (shownText s.toList)).wrap .ragged width .fold).map fun line =>
    line.segments.map (Segment.on tone.style)

/-- A message of a kind. -/
def Screen.message (screen : Screen) (tone : Tone) (s : String) : String :=
  screen.written (toneLines screen.width tone s)

/-! ## Tables -/

/-- The title of a table; an empty text is none. -/
def readTitle (title : String) : Except Markup.Fault (Option StyledText) :=
  if title = "" then .ok none
  else (Markup.read (some (.ofAttributes [.italic])) title.toList).map some

/-- The headers of a table, with so much room for all columns. Columns of less than three cells show
no header. -/
def readHeaders (room : Nat) (headers : List String) : Except Markup.Fault (List StyledText) :=
  if room < 3 then .ok (headers.map fun _ => .plain [])
  else headers.mapM fun h => Markup.read none h.toList

/-- The cells of rows. -/
def literalRows (rows : List (List String)) : List (List StyledText) :=
  rows.map fun row => row.map fun cell => Markup.literal cell.toList

/-- The lines of a table: the first column stands at the left, the others at the right. -/
def tableLines (width : Nat) (headers : List String) (rows : List (List String)) (title : String) :
    Except Markup.Fault (List Line) := do
  let columns := headers.mapIdx fun i _ => (⟨if i = 0 then .left else .right, .none⟩ : Column)
  let bare : Grid := ⟨columns, none, literalRows rows, none⟩
  if bare.count == 0 then return bare.lines width
  let headers ← readHeaders (bare.room width) headers
  let title ← readTitle title
  return { bare with header := some headers, title := title }.lines width

/-- The lines of pairs: keys stand at the right of their column. -/
def pairLines (width : Nat) (entries : List (String × String)) (title : String) :
    Except Markup.Fault (List Line) := do
  let title ← readTitle title
  let rows := literalRows (entries.map fun (k, v) => [k, v])
  return (⟨[⟨.right, .ofAttributes [.bold]⟩, ⟨.left, .none⟩], none, rows, title⟩ : Grid).lines width

/-! ## Verbatim text -/

/-- Replaces tabs by spaces up to the next multiple of four; `column` is the number of characters
before. -/
def expandTabs (column : Nat) : List Char → List Char
  | [] => []
  | c :: rest =>
    if c == '\t' then
      let n := 4 - column % 4
      List.replicate n ' ' ++ expandTabs (column + n) rest
    else c :: expandTabs (if c == '\n' || c == '\r' then 0 else column + 1) rest

/-- A text without the mark at its beginning that tells the order of bytes. -/
def dropMark : List Char → List Char
  | c :: rest => if c.toNat == 0xFEFF then rest else c :: rest
  | [] => []

/-- The lines of verbatim text as they are given. -/
def blockTexts (content : String) : List StyledText :=
  let ended := content.toList.getLast? == some '\n'
  let content := if ended then content.toList else content.toList ++ ['\n']
  let texts := Highlight.lines (fun c => !isControl c) (Text.unifyNewlines (dropMark (expandTabs 0 content)))
  if ended then texts else texts.dropLast

/-- The lines of verbatim text, padded to the width of the screen. -/
def blockLines (width : Nat) (content : String) : List Line :=
  (blockTexts content).flatMap fun text =>
    (text.wrap .left width .fold).map fun line =>
      Line.fit width Highlight.ground (line.segments.map (Segment.on Highlight.ground))

/-! ## Rendering -/

/-- The text of a message. -/
def render (screen : Screen) : Message → Except Markup.Fault Written
  | .info text => .ok (.toOut (screen.message .info ("  " ++ text)))
  | .success text => .ok (.toOut (screen.message .success ("  ✓ " ++ text)))
  | .warning text => .ok (.toOut (screen.message .warning ("  ⚠ " ++ text)))
  | .error text => .ok (.toErr (screen.message .error ("  ✗ " ++ text)))
  | .step text => .ok (.toOut (screen.message .step ("\n  " ++ text)))
  | .table headers rows title => do
    return .toOut (screen.written (← tableLines screen.width headers rows title))
  | .pairs entries title => do
    return .toOut (screen.written (← pairLines screen.width entries title))
  | .block content title =>
    .ok (.toOut ((if title = "" then "" else screen.message .step (title ++ ":")) ++
      screen.written (blockLines screen.width content)))

end ParseBench.Console.Rich
