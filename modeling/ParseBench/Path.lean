import ParseBench.Text.Newlines
import ParseBench.Text.Quoted

set_option relaxedAutoImplicit false
set_option autoImplicit false

/-!
# Paths

A path is a root, which is empty for a relative path, and the names that lead from there. Empty
names and names of a single dot are dropped; names of two dots stay.

The names are sequences of characters. Surrogates on their own, for which there is
`ParseBench.Text.Points`, are left out: a name with one stands for bytes that are no text, and a
message about such a path cannot be written to a console.

## Main definitions

* `ParseBench.Path.ofString`, `ParseBench.Path.text` — reading and writing a path.
* `ParseBench.Path.join` — a path below another.
* `ParseBench.Path.parent`, `ParseBench.Path.name`, `ParseBench.Path.withName?` — its last name.
-/

namespace ParseBench

/-- A path. -/
structure Path where
  /-- Empty, or one or two slashes. -/
  root : String
  names : List String
deriving DecidableEq, Repr

namespace Path

/-- The root of a path text: exactly two leading slashes are kept, any other number counts as
one. -/
def rootOf : List Char → String
  | '/' :: '/' :: '/' :: _ => "/"
  | '/' :: '/' :: _ => "//"
  | '/' :: _ => "/"
  | _ => ""

/-- Reads a path. -/
def ofString (s : String) : Path :=
  ⟨rootOf s.toList,
    ((Text.splitOnChar '/' s.toList).filter fun n => n != [] && n != ['.']).map String.ofList⟩

/-- Writes a path; the empty one is a dot. -/
def text (p : Path) : String :=
  if p.root == "" && p.names.isEmpty then "." else p.root ++ "/".intercalate p.names

/-- A path below another; a path with a root stands for itself. -/
def join (p : Path) (q : Path) : Path :=
  if q.root == "" then ⟨p.root, p.names ++ q.names⟩ else q

/-- The path below `p` with a given text. -/
def child (p : Path) (name : String) : Path :=
  p.join (ofString name)

/-- The path without its last name. -/
def parent (p : Path) : Path :=
  ⟨p.root, p.names.dropLast⟩

/-- The last name; empty if there is none. -/
def name (p : Path) : String :=
  p.names.getLast?.getD ""

/-- The path with its last name replaced; `none` if there is no last name. -/
def withName? (p : Path) (name : String) : Option Path :=
  if p.names.isEmpty then none else some ⟨p.root, p.names.dropLast ++ [name]⟩

/-- The display of a path. -/
def shown (p : Path) : String :=
  "PosixPath(" ++ Text.quoted p.text ++ ")"

/-- Whether a name of the path holds the character that ends path texts. -/
def hasNul (p : Path) : Bool :=
  p.names.any fun n => n.toList.contains (Char.ofNat 0)

end Path

end ParseBench
