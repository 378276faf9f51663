import ParseBench.Text.Lowercase
import ParseBench.Text.Newlines
import ParseBench.Url.Host.Label

set_option relaxedAutoImplicit false
set_option autoImplicit false

/-!
# International host names

A host name is a list of labels with full stops between them; ideographic full stops count, too. It
may end with a full stop.

## Main definitions

* `ParseBench.Url.asciiHost` — a host name in ASCII.
* `ParseBench.Url.readableHost` — a host name as it is read.
-/

namespace ParseBench.Url

open ParseBench.Text (Points splitOnChar)

/-- The characters that divide labels. -/
def isLabelDot (n : Nat) : Bool := n == 0x2E || n == 0x3002 || n == 0xFF0E || n == 0xFF61

/-- The greatest length of a host name, with a full stop at its end. -/
def maxHost : Nat := 254

/-- The labels of a host name, and whether it ends with a full stop. -/
def hostLabels (host : List Nat) : Except LabelFault (List Label × Bool) :=
  if maxHost < host.length then .error .domainTooLong
  else
    let labels := splitOnChar 0x2E (host.map fun n => if isLabelDot n then 0x2E else n)
    if labels == [[]] then .error .emptyDomain
    else if labels.getLast? == some [] then .ok (labels.dropLast, true)
    else .ok (labels, false)

/-- A host name in ASCII. -/
def asciiHost (host : Points) : Except LabelFault (List Char) := do
  let (labels, final) ← hostLabels (host.map (·.number))
  let ascii ← labels.mapM asciiLabel
  let name := ['.'].intercalate (ascii ++ if final then [[]] else [])
  if (if final then maxHost else maxHost - 1) < name.length then .error .domainTooLong
  else return name

/-- A host name in ASCII as it is read. Only one that begins with a label that stands for another is
changed. -/
def readableHost (host : List Char) : Except LabelFault Points := do
  if asciiMark.isPrefixOf host then
    let (labels, final) ← hostLabels (host.map Char.toNat)
    let readable ← labels.mapM readableLabel
    return ([0x2E].intercalate (readable ++ if final then [[]] else [])).map .ofNumber
  else return .ofChars host

end ParseBench.Url
