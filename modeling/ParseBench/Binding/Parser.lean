import ParseBench.Binding.Module
import ParseBench.Tree

set_option relaxedAutoImplicit false
set_option autoImplicit false

/-!
# Parsing through a binding

A parser is a binding that has both entry points. Whatever the binding does wrong becomes a parse
failure, except for what is no error of the parse: a fault that ends the program or has no text, an
offset that is infinite, and a value or a tree that is nested too deeply.

## Main definitions

* `ParseBench.ParseFailure` — the parse failures.
* `ParseBench.ParseAbort` — everything that can end a parse.
* `ParseBench.Parser` — a binding with both entry points.
* `ParseBench.Parser.parse` — a call and the normalization of its answer.
* `ParseBench.Parser.parseTree` — a blocking parse and the decoding of its root.
-/

namespace ParseBench

open Binding

/-- A parse failure. -/
inductive ParseFailure where
  /-- The entry point raised a fault of a class with a text. -/
  | raised (mode : CallMode) (className text : String)
  /-- The root is not a text but a value of this kind. -/
  | rootNotText (kind : String)
  /-- An error or a comment cannot be converted. -/
  | malformed (fault : ConversionFault)
  /-- The root is not a serialized tree. -/
  | badRoot (fault : Tree.Fault)
  /-- The tree has no list of fragment nodes. -/
  | noNodes
  /-- A benchmark task failed. -/
  | task (label text : String)
deriving DecidableEq, Repr

/-- The wording of a parse failure. -/
def ParseFailure.message : ParseFailure → String
  | .raised mode className text => entryName mode ++ " raised " ++ className ++ ": " ++ text
  | .rootNotText kind => "parser returned a non-string root: " ++ kind
  | .malformed fault => "parser returned malformed errors or comments: " ++ fault.message
  | .badRoot fault => "root is not valid JSON: " ++ fault.message
  | .noNodes => "root has no fragment.nodes list"
  | .task label text => label ++ ": " ++ text

/-- What can end a parse. -/
inductive ParseAbort where
  | failure (f : ParseFailure)
  /-- A fault that ends the program. -/
  | uncatchable (f : Fault)
  /-- An offset is infinite. -/
  | infiniteOffset
  /-- The tree is nested too deeply. -/
  | tooDeep (innermost : Json.Container)
  /-- A value is nested too deeply to be displayed. -/
  | undisplayable
  /-- A fault has no text. -/
  | unwritable (fault : TextlessFault)
deriving Repr

/-- The text of what ended a parse. -/
def ParseAbort.text : ParseAbort → Except TextlessFault String
  | .failure f => .ok f.message
  | .uncatchable f => f.message
  | .infiniteOffset => .ok ConversionFault.infinite.message
  | .tooDeep innermost => .ok ((Json.Fault.tooDeep innermost).message "")
  | .undisplayable => .ok ConversionFault.tooDeep.message
  | .unwritable fault => .ok fault.message

/-- What a fault raised by an entry point does to the parse. -/
def ParseAbort.ofFault (mode : CallMode) (f : Fault) : ParseAbort :=
  if f.uncatchable then .uncatchable f
  else match f.message with
    | .ok text => .failure (.raised mode f.className text)
    | .error fault => .unwritable fault

/-- What a failed normalization does to the parse. -/
def ParseAbort.ofOutcomeFault : OutcomeFault → ParseAbort
  | .rootNotText kind => .failure (.rootNotText kind)
  | .malformed .infinite => .infiniteOffset
  | .malformed .tooDeep => .undisplayable
  | .malformed fault => .failure (.malformed fault)

/-- What an undecodable root does to the parse. -/
def ParseAbort.ofTreeFault : Tree.Fault → ParseAbort
  | .notJson _ (.tooDeep innermost) => .tooDeep innermost
  | fault => .failure (.badRoot fault)

/-- The outcome of a reply. -/
def Binding.Reply.outcome (mode : CallMode) : Reply → Except ParseAbort Outcome
  | .value v => (Outcome.ofRaw v).mapError .ofOutcomeFault
  | .raised f => .error (.ofFault mode f)

/-- The tree of a serialized root, or what ends the parse. -/
def decodeRoot (root : String) : Except ParseAbort Json.Value :=
  (Tree.decode root).mapError .ofTreeFault

/-- The number of fragment nodes of a tree, or a parse failure. -/
def fragmentNodes (tree : Json.Value) : Except ParseAbort Nat :=
  match Tree.nodeCount? tree with
  | some n => .ok n
  | none => .error (.failure .noNodes)

/-- A binding with both entry points. -/
structure Parser where
  binding : Binding
  complete : binding.missing = []

namespace Parser

/-- The parser of a binding, or the entry points that the binding lacks. -/
def ofBinding (b : Binding) : Except (List String) Parser :=
  if h : b.missing = [] then .ok ⟨b, h⟩ else .error b.missing

/-- Calls the parser and normalizes its answer. -/
def parse (p : Parser) (mode : CallMode) (source : String) : Act ParseAbort Outcome := do
  Act.ofExcept ((← p.binding.call mode source).outcome mode)

/-- Parses a source at once and decodes the tree. -/
def parseTree (p : Parser) (source : String) : Act ParseAbort Json.Value := do
  let outcome ← p.parse .blocking source
  Act.ofExcept (decodeRoot outcome.root)

end Parser

end ParseBench
