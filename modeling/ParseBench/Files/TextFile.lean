import ParseBench.Files.Access
import ParseBench.Text.Newlines

set_option relaxedAutoImplicit false
set_option autoImplicit false

/-!
# Text files

Text files are in UTF-8, and each of the usual line breaks in them counts as a single LF.

## Main definitions

* `ParseBench.Files.Volume.readText` — the text of a file.
-/

namespace ParseBench.Files

/-- Why a file cannot be read as text. -/
inductive TextFault where
  | access (fault : AccessFault)
  | utf8 (fault : Text.Utf8.Fault)
deriving DecidableEq, Repr

/-- The text of a file, every line break as a single LF. -/
def Volume.readText (v : Volume) (p : Path) : Except TextFault String := do
  let content ← (v.read p).mapError .access
  let chars ← (Text.Utf8.decodeChars content).mapError .utf8
  return String.ofList (Text.unifyNewlines chars)

end ParseBench.Files
