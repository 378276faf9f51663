import ParseBench.Files.Volume
import ParseBench.Journal

set_option relaxedAutoImplicit false
set_option autoImplicit false

/-!
# The log file

The log file is opened once and written at its end, record by record. It stays the same file when it
is moved or cut short, and what is written to it after another file has taken its place is lost.

## Main definitions

* `ParseBench.Log.Sink` — an open log file.
* `ParseBench.Log.Sink.follow` — where the file is after a step on the volume.
* `ParseBench.Log.Desk` — a volume and the log file on it, with `ParseBench.Log.Desk.take` for steps
  and `ParseBench.Log.Desk.note` for events.
-/

namespace ParseBench.Log

open ParseBench.Files (Change Location Volume)

/-- An open log file. -/
structure Sink where
  /-- Only records that reach this level are written. -/
  threshold : Level
  /-- The time that the records show. -/
  time : String
  /-- Where the file is; `none` if there is no log file or another file has taken its place. -/
  place : Option Location
deriving DecidableEq, Repr

namespace Sink

/-- No log file. -/
def none : Sink := ⟨.error, "", .none⟩

/-- Where the file is after a step. -/
def follow (s : Sink) : Change → Sink
  | .move source target =>
    if s.place == some source then { s with place := some target }
    else if s.place == some target then { s with place := .none }
    else s
  | _ => s

/-- The line of an event; empty for events that are not logged. -/
def line (s : Sink) : Event → String
  | .log r => if r.reaches s.threshold then r.line s.time else ""
  | _ => ""

/-- The lines of events. -/
def lines (s : Sink) (events : List Event) : String :=
  String.join (events.map s.line)

/-- Writes the lines of events at the end of the file. -/
def write (s : Sink) (v : Volume) (events : List Event) : Volume :=
  match s.place with
  | .none => v
  | some place =>
    match s.lines events with
    | "" => v
    | text => (Change.write place ((v.file? place).getD [] ++ Text.Utf8.encode text)).apply v

end Sink

/-- A volume and the log file on it. -/
structure Desk where
  volume : Volume
  sink : Sink

namespace Desk

/-- A volume without a log file. -/
def ofVolume (v : Volume) : Desk := ⟨v, .none⟩

/-- Takes steps on the volume. -/
def take (d : Desk) (changes : List Change) : Desk :=
  changes.foldl (fun d change => ⟨change.apply d.volume, d.sink.follow change⟩) d

/-- Logs events. -/
def note (d : Desk) (events : List Event) : Desk :=
  { d with volume := d.sink.write d.volume events }

end Desk

end ParseBench.Log
