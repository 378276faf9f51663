import ParseBench.Proofs.Bench.Measurement
import ParseBench.Proofs.Binding.Normalization
import ParseBench.Proofs.Program.Output

set_option relaxedAutoImplicit false
set_option autoImplicit false

/-!
# What is said about a file

A file is inspected without a word. After that the program says that the file is missing, if the
operating system does not let it be read, or it gives its report, or it says nothing and ends with
the reason. So whatever a parser raises is never taken for a file that is missing.

## Main definitions

* `ParseBench.Ticks` — clocks that go on for two more readings.
* `ParseBench.Program.Unreadable` — files that the operating system does not let be read.
* `ParseBench.Program.report`, `ParseBench.Program.reportText` — the report on a parse, and the text
  that a console writes for it.

## Main results

* `ParseBench.inspect_saysNothing` — an inspection says nothing itself.
* `ParseBench.inspect_of_raised`, `ParseBench.inspect_of_value` — what an inspection makes of an
  answer.
* `ParseBench.Program.inspectFile_ends` — the three ends of the command.
* `ParseBench.Program.inspectFile_reports` — what is said, and for which reason.
-/

namespace ParseBench

open Stateful
open Act (SaysNothing)
open ParseBench.Files
open ParseBench.Text (quoted)

/-! ## Readings and parses -/

section Steps

variable {clock : Bench.Clock} {p : Parser} {j : Journal}

/-- A reading of the clock that is within its readings is one event. -/
lemma readSeconds_of_lt (h : j.clockReads < clock.readings) :
    readSeconds clock j = (seconds (clock.time j.clockReads), j.add .clockRead) := by
  rw [readSeconds, bind_eq, Act.mapFailure_eq, Bench.Clock.read_of_lt clock h]
  exact Act.ofExcept_eq _ _

/-- Reading the clock says nothing. -/
lemma readSeconds_saysNothing (clock : Bench.Clock) : SaysNothing (readSeconds clock) := by
  refine SaysNothing.bind (.mapFailure _ fun j => ?_) fun now => .ofExcept _
  rcases Nat.lt_or_ge j.clockReads clock.readings with h | h
  · rw [Bench.Clock.read_of_lt clock h]
    exact j.messages_add_of_none rfl
  · rw [Bench.Clock.read_of_le clock h]

/-- A parse says nothing. -/
lemma parse_saysNothing (p : Parser) (mode : CallMode) (source : String) :
    SaysNothing (p.parse mode source) := by
  intro j
  rw [p.parse_eq, Binding.call_snd]
  split
  · exact j.messages_add_of_none rfl
  · rfl

/-- What is answered does not depend on the clock. -/
lemma answer_clockRead (p : Parser) (mode : CallMode) (source : String) (j : Journal) :
    p.answer mode source (j.add .clockRead) = p.answer mode source j :=
  p.binding.call_fst_congr (by cases mode <;> rfl)

/-- A call reads no clock. -/
lemma clockReads_call (p : Parser) (mode : CallMode) (source : String) (j : Journal) :
    (p.binding.call mode source j).2.clockReads = j.clockReads := by
  rw [Binding.call_snd]
  split
  · cases mode <;> rfl
  · rfl

end Steps

/-! ## Inspections -/

/-- **An inspection says nothing** itself. -/
lemma inspect_saysNothing (p : Parser) (clock : Bench.Clock) (v : Volume) (path : Path) :
    SaysNothing (inspect p clock v path) := by
  rw [inspect]
  refine SaysNothing.bind (.ofExcept _) fun source => ?_
  refine SaysNothing.bind (readSeconds_saysNothing clock) fun start => ?_
  refine SaysNothing.bind (.mapFailure _ (parse_saysNothing p _ _)) fun outcome => ?_
  refine SaysNothing.bind (readSeconds_saysNothing clock) fun stop => ?_
  refine SaysNothing.bind (.ofExcept _) fun tree => ?_
  exact SaysNothing.bind (.log _ _ _) fun _ => .ofExcept (.ok _)

/-- A clock goes on for two more readings, whose times are numbers of seconds. -/
structure Ticks (clock : Bench.Clock) (j : Journal) (start stop : Float) : Prop where
  readings : j.clockReads + 2 ≤ clock.readings
  start : seconds (clock.time j.clockReads) = .ok start
  stop : seconds (clock.time (j.clockReads + 1)) = .ok stop

section Inspect

variable {p : Parser} {clock : Bench.Clock} {v : Volume} {path : Path} {j : Journal}
  {source : String} {start stop : Float}

/-- A reading of the clock never fails for want of a text. -/
lemma readSeconds_ne_text {fault : TextFault} {j' : Journal} :
    readSeconds clock j ≠ (.error (.text fault), j') := by
  intro h
  rw [readSeconds] at h
  rcases bind_error_iff.1 h with h | ⟨now, j₁, -, h⟩
  · obtain ⟨_, -, hfault⟩ := Act.mapFailure_eq_error_iff.1 h
    cases hfault
  · rw [Act.ofExcept_eq, seconds] at h
    split at h <;> cases h

/-- **The file is to blame** exactly if its text was not read. -/
lemma inspect_eq_text_iff {fault : TextFault} {j' : Journal} :
    inspect p clock v path j = (.error (.text fault), j') ↔
      v.readText path = .error fault ∧ j' = j := by
  constructor
  · intro h
    rw [inspect] at h
    rcases bind_error_iff.1 h with h | ⟨source, j₁, -, h⟩
    · rw [Act.ofExcept_eq, Prod.mk.injEq, mapError_eq_error_iff] at h
      obtain ⟨⟨_, hread, ⟨⟩⟩, rfl⟩ := h
      exact ⟨hread, rfl⟩
    rcases bind_error_iff.1 h with h | ⟨start, j₂, -, h⟩
    · exact absurd h readSeconds_ne_text
    rcases bind_error_iff.1 h with h | ⟨outcome, j₃, -, h⟩
    · obtain ⟨_, -, hfault⟩ := Act.mapFailure_eq_error_iff.1 h
      cases hfault
    rcases bind_error_iff.1 h with h | ⟨stop, j₄, -, h⟩
    · exact absurd h readSeconds_ne_text
    rcases bind_error_iff.1 h with h | ⟨tree, j₅, -, h⟩
    · rw [Act.ofExcept_eq, Prod.mk.injEq, mapError_eq_error_iff] at h
      obtain ⟨⟨_, -, h⟩, -⟩ := h
      cases h
    · cases h
  · rintro ⟨h, rfl⟩
    rw [inspect, bind_eq, Act.ofExcept_eq, h]
    rfl

/-- **A fault that is raised** ends the inspection as it ends the parse. -/
lemma inspect_of_raised {fault : Binding.Fault} (hread : v.readText path = .ok source)
    (hticks : Ticks clock j start stop) (h : p.answer .blocking source j = .raised fault) :
    (inspect p clock v path j).1 = .error (.parse (.ofFault .blocking fault)) := by
  have hreadings := hticks.readings
  have hanswer := (answer_clockRead p .blocking source j).trans h
  rw [inspect, bind_eq, Act.ofExcept_eq, hread]
  change ((readSeconds clock >>= _) j).1 = _
  rw [bind_eq, readSeconds_of_lt (by omega), hticks.start]
  dsimp only
  rw [bind_eq, Act.mapFailure_eq, p.parse_eq, hanswer]
  rfl

/-- **An answer that is normalized and whose root is decoded** is what an inspection finds. -/
lemma inspect_of_value {answer : Binding.Raw} {o : Binding.Outcome} {t : Json.Value}
    (hread : v.readText path = .ok source) (hticks : Ticks clock j start stop)
    (h : p.answer .blocking source j = .value answer) (ho : Binding.Outcome.ofRaw answer = .ok o)
    (ht : Tree.decode o.root = .ok t) :
    (inspect p clock v path j).1 = .ok ⟨path, (stop - start) * 1000.0, o, t⟩ := by
  have hreadings := hticks.readings
  have hanswer := (answer_clockRead p .blocking source j).trans h
  have houtcome : ((Binding.Reply.value answer).outcome .blocking).mapError InspectAbort.parse =
      .ok o :=
    mapError_eq_ok_iff.2 (mapError_eq_ok_iff.2 ho)
  have htree : (decodeRoot o.root).mapError InspectAbort.parse = .ok t :=
    mapError_eq_ok_iff.2 (mapError_eq_ok_iff.2 ht)
  -- the call does not read the clock, so that the second reading is the next one
  have hcalled : (p.binding.call .blocking source (j.add .clockRead)).2.clockReads =
      j.clockReads + 1 :=
    clockReads_call p .blocking source _
  have hstop := hcalled ▸ hticks.stop
  rw [inspect, bind_eq, Act.ofExcept_eq, hread]
  change ((readSeconds clock >>= _) j).1 = _
  rw [bind_eq, readSeconds_of_lt (by omega), hticks.start]
  dsimp only
  rw [bind_eq, Act.mapFailure_eq, p.parse_eq, hanswer, houtcome]
  dsimp only
  rw [bind_eq, readSeconds_of_lt (by omega), hstop]
  dsimp only
  rw [bind_eq, Act.ofExcept_eq, htree]
  rfl

end Inspect

/-! ## The command -/

namespace Program

/-- The operating system does not let a file be read. -/
def Unreadable (v : Volume) (file : Path) : Prop :=
  ∃ error path other, v.readText file = .error (.access (.os error path other))

/-- What is said about a file that is missing. -/
def missingText (file : Path) : String := "Missing '" ++ file.text ++ "'"

/-- A file is unreadable exactly if an inspection ends with it. -/
lemma unreadable_iff (p : Parser) (clock : Bench.Clock) (j : Journal) {v : Volume} {file : Path} :
    Unreadable v file ↔ ∃ error path other,
      (inspect p clock v file j).1 = .error (.text (.access (.os error path other))) := by
  constructor
  · rintro ⟨error, path, other, hread⟩
    exact ⟨error, path, other, congrArg Prod.fst (inspect_eq_text_iff.2 ⟨hread, rfl⟩)⟩
  · rintro ⟨error, path, other, hinspect⟩
    exact ⟨error, path, other, (inspect_eq_text_iff.1 (Prod.ext hinspect rfl)).1⟩

section Report

variable {b : Console.Backend} {st st' : State} {tree : Bool} {elapsed : Float}
  {o : Binding.Outcome} {t : Json.Value}

/-- What is said about the time of a parse in milliseconds. -/
def timeText (elapsed : Float) : String := Decimal.fixed 2 elapsed ++ "ms."

/-- What is said about the comments: all their values, in order. -/
def commentsText (o : Binding.Outcome) : String :=
  "Comments: [" ++ ", ".intercalate (o.comments.map fun c => quoted c.value) ++ "]"

/-- What is said last, and how. -/
def verdict (o : Binding.Outcome) : Console.Kind × String :=
  if o.errors = [] then (.success, "Parsed Successfully.") else (.warning, "Parsed with Errors.")

/-- The report on a parse: the time, the tree if it is wanted, the comments, the errors in order,
and the verdict. -/
def report (tree : Bool) (elapsed : Float) (o : Binding.Outcome) (t : Json.Value) :
    List Console.Message :=
  [.info (timeText elapsed)] ++ (if tree then [.block (Json.indented t) "AST"] else []) ++
    [.info (commentsText o)] ++ o.errors.map .warning ++ [(verdict o).1.message (verdict o).2]

/-- The lines of a report. -/
def reportText (b : Console.Backend) (tree : Bool) (elapsed : Float) (o : Binding.Outcome)
    (t : Json.Value) : String :=
  line b .info (timeText elapsed) ++
    (if tree then (b.written (.block (Json.indented t) "AST")).out else "") ++
    line b .info (commentsText o) ++ String.join (o.errors.map (line b .warning)) ++
    line b (verdict o).1 (verdict o).2

/-- The messages of an inspection are those of its report. -/
lemma inspectionMessages_eq (tree : Bool) (path : Path) (elapsed : Float) (o : Binding.Outcome)
    (t : Json.Value) : inspectionMessages tree ⟨path, elapsed, o, t⟩ = report tree elapsed o t := by
  rw [inspectionMessages, report, verdict, Inspection.ok]
  by_cases h : o.errors = []
  · simp [h, timeText, commentsText, Console.Kind.message]
  · simp [h, timeText, commentsText, Console.Kind.message]

/-- The verdict is no error. -/
lemma stream_verdict (o : Binding.Outcome) (s : String) : (verdict o).1.stream s = .toOut s := by
  rw [verdict]
  split <;> rfl

/-- No error is said in a report. -/
lemma error_not_mem_report {text : String} : .error text ∉ report tree elapsed o t := by
  intro h
  simp only [report, verdict, List.mem_append, List.mem_map, List.mem_singleton] at h
  rcases h with (((h | h) | h) | ⟨e, -, h⟩) | h
  · cases h
  · split at h
    · cases List.mem_singleton.1 h
    · cases h
  · cases h
  · cases h
  · split at h <;> cases h

/-- What a console writes for the messages of a report is written to the standard output. -/
lemma prints_report (h : Says st st' (report tree elapsed o t))
    (hlegible : AllLegible b (report tree elapsed o t)) :
    Prints b st st' (reportText b tree elapsed o t) "" := by
  have hwritten (kind : Console.Kind) (text : String)
      (hmem : kind.message text ∈ report tree elapsed o t) :
      b.written (kind.message text) = kind.stream (line b kind text) :=
    Console.Backend.written_of_legible (hlegible kind text hmem)
  have htime : b.written (.info (timeText elapsed)) = .toOut (line b .info (timeText elapsed)) :=
    hwritten .info _ (by simp [report, Console.Kind.message])
  have hcomments : b.written (.info (commentsText o)) = .toOut (line b .info (commentsText o)) :=
    hwritten .info _ (by simp [report, Console.Kind.message])
  have herrors : (o.errors.map Console.Message.warning).map (fun m => (b.written m).out) =
      o.errors.map (line b .warning) := by
    rw [List.map_map]
    refine List.map_congr_left fun e he => ?_
    have herror := hwritten .warning e (by simp [report, Console.Kind.message, he])
    exact congrArg Console.Written.out herror
  have hverdict := hwritten (verdict o).1 (verdict o).2 (by simp [report])
  rw [stream_verdict] at hverdict
  have hout : String.join ((report tree elapsed o t).map fun m => (b.written m).out) =
      reportText b tree elapsed o t := by
    rw [report, reportText]
    simp only [List.map_append, String.join_append, herrors]
    cases tree <;> simp [htime, hcomments, hverdict, Console.Written.toOut]
  have herr : String.join ((report tree elapsed o t).map fun m => (b.written m).err) = "" := by
    refine join_eq_empty (List.forall_mem_map.2 fun m hm => b.err_of_ne_error ?_)
    rintro text rfl
    exact error_not_mem_report hm
  have hprints := prints_of_said (b := b) h
  rwa [hout, herr] at hprints

end Report

section Ends

variable {s : Surroundings} {binding : String} {file : Path} {tree : Bool} {st st₁ st' : State}
  {parser : Parser} {r : Except Abort Nat}

/-- **The three ends of the command**: the file is missing, or the inspection ends early, or it is
reported. -/
lemma inspectFile_ends
    (hload : Doing.ofAct .load (Binding.load s.library binding) st = (.ok parser, st₁))
    (h : inspectFile s binding file tree st = (r, st')) :
    (Unreadable st₁.volume file ∧ r = .ok 1 ∧ Says st st' [.error (missingText file)]) ∨
    (∃ a, (inspect parser s.clock st₁.volume file st₁.journal).1 = .error a ∧
      ¬ Unreadable st₁.volume file ∧ r = .error (.inspect a) ∧ Says st st' []) ∨
    ∃ i, (inspect parser s.clock st₁.volume file st₁.journal).1 = .ok i ∧
      ¬ Unreadable st₁.volume file ∧ r = .ok 0 ∧ Says st st' (inspectionMessages tree i) := by
  have hsilent := inspect_saysNothing parser s.clock st₁.volume file st₁.journal
  rw [messages_ofAct (load_saysNothing _ _) hload] at hsilent
  rw [unreadable_iff parser s.clock st₁.journal]
  rw [inspectFile, bind_eq, hload] at h
  dsimp only at h
  rw [get_bind_eq] at h
  generalize inspect parser s.clock st₁.volume file st₁.journal = ended at h hsilent ⊢
  obtain ⟨a | i, j⟩ := ended
  · by_cases hos : ∃ error path other, a = .text (.access (.os error path other))
    · obtain ⟨error, path, other, rfl⟩ := hos
      cases h
      refine .inl ⟨⟨error, path, other, rfl⟩, rfl, ?_⟩
      rw [Says, ← hsilent]
      exact j.messages_addAll [_]
    · -- the command looks only for faults of the operating system; all others end it
      have hends : (.error (.inspect a), st₁.grow j) = (r, st') := by
        rw [← h]
        rcases a with ((os | nul) | utf8) | parse | stopped | overflow
        · exact absurd ⟨_, _, _, rfl⟩ hos
        all_goals rfl
      cases hends
      refine .inr (.inl ⟨a, rfl, ?_, rfl, hsilent.trans (List.append_nil _).symm⟩)
      simpa using hos
  · obtain ⟨st₂, hsay, hsaid⟩ := forM_say (inspectionMessages tree i) (st₁.grow j)
    change ((inspectionMessages tree i).forM Doing.say >>= fun _ => pure 0) (st₁.grow j) = _ at h
    rw [bind_eq, hsay] at h
    cases h
    refine .inr (.inr ⟨i, rfl, by simp, rfl, ?_⟩)
    rw [Says, hsaid, ← hsilent]
    rfl

/-- **What the command reports**, and for which reason.

* It says that the file is missing, and has the status 1, exactly if the operating system does not
  let the file be read. Otherwise no error is said at all.
* If the parser raises a fault that has a text, the command ends with the parse failure of this
  fault, and says nothing; this holds for faults of the operating system like for all others.
* If the answer of the parser is normalized and its root is decoded, the command has the status 0,
  whatever the errors are, and gives its report.

A console writes these lines as they are if it is plain, or if they are legible on the terminal: no
emoji codes are in them, their characters take one cell each, and they fit. -/
theorem inspectFile_reports
    (hload : Doing.ofAct .load (Binding.load s.library binding) st = (.ok parser, st₁))
    (h : inspectFile s binding file tree st = (r, st')) :
    ((r = .ok 1 ↔ Unreadable st₁.volume file) ∧
      (Unreadable st₁.volume file → Says st st' [.error (missingText file)] ∧
        ∀ b, b.Legible (Console.Kind.mark .error b ++ missingText file) →
          Prints b st st' "" (line b .error (missingText file))) ∧
      (¬ Unreadable st₁.volume file → ∀ ms text, Says st st' ms → .error text ∉ ms)) ∧
    ∀ source start stop, st₁.volume.readText file = .ok source →
      Ticks s.clock st₁.journal start stop →
      (∀ fault text, parser.answer .blocking source st₁.journal = .raised fault →
        fault.uncatchable = false → fault.message = .ok text →
          r = .error (.inspect (.parse (.failure (.raised .blocking fault.className text)))) ∧
          Says st st' []) ∧
      ∀ v o t, parser.answer .blocking source st₁.journal = .value v →
        Binding.Outcome.ofRaw v = .ok o → Tree.decode o.root = .ok t →
          r = .ok 0 ∧ Says st st' (report tree ((stop - start) * 1000.0) o t) ∧
          ∀ b, AllLegible b (report tree ((stop - start) * 1000.0) o t) →
            Prints b st st' (reportText b tree ((stop - start) * 1000.0) o t) "" := by
  have hends := inspectFile_ends hload h
  refine ⟨⟨?_, ?_, ?_⟩, fun source start stop hread hticks => ⟨?_, ?_⟩⟩
  · rcases hends with ⟨hun, rfl, -⟩ | ⟨a, -, hno, rfl, -⟩ | ⟨i, -, hno, rfl, -⟩
    · simp [hun]
    · simp [hno]
    · simp [hno]
  · intro hunreadable
    rcases hends with ⟨-, -, hsaid⟩ | ⟨a, -, hno, -⟩ | ⟨i, -, hno, -⟩
    · exact ⟨hsaid, fun b hlegible => prints_error hsaid hlegible⟩
    · exact absurd hunreadable hno
    · exact absurd hunreadable hno
  · intro hreadable ms text hms
    rcases hends with ⟨hun, -⟩ | ⟨a, -, -, -, hsaid⟩ | ⟨⟨path, elapsed, o, t⟩, -, -, -, hsaid⟩
    · exact absurd hun hreadable
    · rw [List.append_cancel_left (hms.symm.trans hsaid)]
      exact List.not_mem_nil
    · rw [List.append_cancel_left (hms.symm.trans hsaid), inspectionMessages_eq]
      exact error_not_mem_report
  · intro fault text hanswer hcatchable hmessage
    have hinspect := inspect_of_raised hread hticks hanswer
    rw [ParseAbort.ofFault_of_catchable hcatchable, hmessage] at hinspect
    rcases hends with ⟨⟨_, _, _, hun⟩, -⟩ | ⟨a, ha, -, rfl, hsaid⟩ | ⟨i, hi, -⟩
    · cases hread.symm.trans hun
    · cases hinspect.symm.trans ha
      exact ⟨rfl, hsaid⟩
    · cases hinspect.symm.trans hi
  · intro v o t hanswer ho ht
    have hinspect := inspect_of_value hread hticks hanswer ho ht
    rcases hends with ⟨⟨_, _, _, hun⟩, -⟩ | ⟨a, ha, -⟩ | ⟨i, hi, -, rfl, hsaid⟩
    · cases hread.symm.trans hun
    · cases hinspect.symm.trans ha
    · cases hinspect.symm.trans hi
      rw [inspectionMessages_eq] at hsaid
      exact ⟨rfl, hsaid, fun b hlegible => prints_report hsaid hlegible⟩

end Ends

/-- A parser that always replies in the same way. -/
def replying (reply : Binding.Reply) : Parser where
  binding := ⟨"m", .function fun _ _ => reply, .constant .none⟩
  complete := by rfl

/-- The build server with such a parser. -/
def replyingSurroundings (reply : Binding.Reply) : Surroundings :=
  { sampleSurroundings with library := [("m", (replying reply).binding)] }

/-- The journal after the parser has been loaded. -/
def loadedJournal : Journal :=
  Journal.empty.add (.log ⟨.parser, .debug, "Loaded parser binding m"⟩)

/-- The replying library is loaded, whatever it replies. -/
lemma load_replying (reply : Binding.Reply) :
    Doing.ofAct .load (Binding.load (replyingSurroundings reply).library "m")
      (quiet sampleVolume .empty) = (.ok (replying reply), quiet sampleVolume loadedJournal) := rfl

/-- The clock of the sample goes on for the two readings. -/
lemma ticks_replying (reply : Binding.Reply) :
    Ticks (replyingSurroundings reply).clock loadedJournal 0.0 0.05 := by
  have hstart : seconds 0 = .ok 0.0 := rfl
  have hstop : seconds 50000000 = .ok 0.05 := rfl
  exact ⟨(by decide : 0 + 2 ≤ 100000), hstart, hstop⟩

/-- The sample file can be read. -/
lemma readText_sample : sampleVolume.readText ⟨"", ["a.yaml"]⟩ = .ok "urls: [http://h/a]" :=
  eq_ok_of_toOption (by decide +kernel)

/-- An answer with two errors and a comment. -/
def sampleAnswer : Binding.Raw :=
  .record [("root", .text "{}"), ("errors", .list [.text "e", .int 7]),
    ("comments", .list [.object [("value", .text "c")]])]

/-- The outcome of this answer. -/
def sampleOutcome : Binding.Outcome := ⟨"{}", ["e", "7"], [⟨"c", 0, 0⟩]⟩

/-- A plain console shows that `c` is missing, and what is found in `a.yaml`. -/
theorem inspectFile_reports_plain :
    (∃ st, inspectFile (replyingSurroundings (.value sampleAnswer)) "m" ⟨"", ["c"]⟩ false
        (quiet sampleVolume .empty) = (.ok 1, st) ∧
      Prints .plain (quiet sampleVolume .empty) st "" "  [error] Missing 'c'\n") ∧
    ∃ st, inspectFile (replyingSurroundings (.value sampleAnswer)) "m" ⟨"", ["a.yaml"]⟩ true
        (quiet sampleVolume .empty) = (.ok 0, st) ∧
      Prints .plain (quiet sampleVolume .empty) st
        ("  50.00ms.\nAST:\n{}\n  Comments: ['c']\n" ++
          "  [warn] e\n  [warn] 7\n  [warn] Parsed with Errors.\n") "" := by
  have hload := load_replying (.value sampleAnswer)
  constructor
  · generalize hrun : inspectFile (replyingSurroundings (.value sampleAnswer)) "m" ⟨"", ["c"]⟩ false
      (quiet sampleVolume .empty) = ended
    obtain ⟨r, st⟩ := ended
    have hmissing : Unreadable (quiet sampleVolume loadedJournal).volume ⟨"", ["c"]⟩ :=
      ⟨.noEntry, "c", none, rfl⟩
    obtain ⟨⟨hstatus, hsaid, -⟩, -⟩ := inspectFile_reports hload hrun
    obtain rfl := hstatus.2 hmissing
    exact ⟨st, rfl, (hsaid hmissing).2 .plain trivial⟩
  · generalize hrun : inspectFile (replyingSurroundings (.value sampleAnswer)) "m"
      ⟨"", ["a.yaml"]⟩ true (quiet sampleVolume .empty) = ended
    obtain ⟨r, st⟩ := ended
    have houtcome : Binding.Outcome.ofRaw sampleAnswer = .ok sampleOutcome :=
      eq_ok_of_toOption (by decide +kernel)
    have htree : Tree.decode sampleOutcome.root = .ok (.object []) := rfl
    obtain ⟨-, hparsed⟩ := inspectFile_reports hload hrun
    obtain ⟨-, hreport⟩ := hparsed _ _ _ readText_sample (ticks_replying _)
    obtain ⟨rfl, -, hprints⟩ := hreport _ _ _ rfl houtcome htree
    have htext : reportText .plain true ((0.05 - 0.0) * 1000.0) sampleOutcome (.object []) =
        "  50.00ms.\nAST:\n{}\n  Comments: ['c']\n" ++
          "  [warn] e\n  [warn] 7\n  [warn] Parsed with Errors.\n" := by
      decide +kernel
    rw [← htext]
    exact ⟨st, rfl, hprints .plain fun _ _ _ => trivial⟩

/-- A file whose name has an emoji code in it. -/
def codedFile : Path := ⟨"", [":smile:.svelte"]⟩

/-- **A missing file that is misreported.** It is said that the file `:smile:.svelte` is missing,
and a plain console would print this as it is; but a terminal shows an emoji in place of the
code. -/
theorem inspectFile_misreports :
    ∃ st, inspectFile (replyingSurroundings (.value sampleAnswer)) "m" codedFile false
        (quiet sampleVolume .empty) = (.ok 1, st) ∧
      Says (quiet sampleVolume .empty) st [.error "Missing ':smile:.svelte'"] ∧
      Prints (.rich Console.ownScreen) (quiet sampleVolume .empty) st ""
        "  ✗ Missing '😄.svelte'\n" ∧
      "  ✗ Missing '😄.svelte'\n" ≠
        line (.rich Console.ownScreen) .error "Missing ':smile:.svelte'" := by
  have hload := load_replying (.value sampleAnswer)
  generalize hrun : inspectFile (replyingSurroundings (.value sampleAnswer)) "m" codedFile false
    (quiet sampleVolume .empty) = ended
  obtain ⟨r, st⟩ := ended
  have hmissing : Unreadable (quiet sampleVolume loadedJournal).volume codedFile :=
    ⟨.noEntry, ":smile:.svelte", none, rfl⟩
  have hends := inspectFile_ends hload hrun
  obtain ⟨-, rfl, hsaid⟩ := hends.resolve_right fun h => by
    rcases h with ⟨_, -, hno, -⟩ | ⟨_, -, hno, -⟩ <;> exact hno hmissing
  have hprints := prints_of_said (b := .rich Console.ownScreen) hsaid
  have hshown : Console.Markup.shownText ("  ✗ " ++ missingText codedFile).toList =
      "  ✗ Missing '😄.svelte'".toList := by decide +kernel
  have hwritten : Console.Rich.Screen.message Console.ownScreen .error
      ("  ✗ " ++ missingText codedFile) = "  ✗ Missing '😄.svelte'\n" :=
    (Console.Rich.message_of_fits .error hshown (by decide) Nat.two_pos (Text.cellsUpTo_two _)
      (by decide) (by decide) (by decide)).trans (by decide +kernel)
  have herr : ((Console.Backend.rich Console.ownScreen).written
      (.error (missingText codedFile))).err = "  ✗ Missing '😄.svelte'\n" := hwritten
  have hout : ((Console.Backend.rich Console.ownScreen).written
      (.error (missingText codedFile))).out = "" := rfl
  simp only [List.map_cons, List.map_nil, herr, hout, String.join_cons, String.join_nil,
    String.append_empty] at hprints
  exact ⟨st, rfl, hsaid, hprints, by decide +kernel⟩

/-- A fault of the operating system whose text cannot be written. -/
def textlessFault : Binding.Fault := ⟨"OSError", [.int (Int.ofNat (Nat.pow 10 5000))]⟩

/-- **A fault without a text** that the parser raises is no parse failure: the command ends with a
reason that is not reported. -/
theorem inspectFile_textless :
    textlessFault.uncatchable = false ∧
    ∃ fault st, inspectFile (replyingSurroundings (.raised textlessFault)) "m" ⟨"", ["a.yaml"]⟩
        false (quiet sampleVolume .empty) =
          (.error (.inspect (.parse (.unwritable fault))), st) ∧
      (Abort.inspect (.parse (.unwritable fault))).failure? = none := by
  have hcatchable : textlessFault.uncatchable = false := by decide
  refine ⟨hcatchable, ?_⟩
  generalize hrun : inspectFile (replyingSurroundings (.raised textlessFault)) "m"
    ⟨"", ["a.yaml"]⟩ false (quiet sampleVolume .empty) = ended
  obtain ⟨r, st⟩ := ended
  have hanswer : (replying (.raised textlessFault)).answer .blocking "urls: [http://h/a]"
      loadedJournal = .raised textlessFault := rfl
  have hinspect := inspect_of_raised readText_sample
    (ticks_replying (.raised textlessFault)) hanswer
  rw [ParseAbort.ofFault_of_catchable hcatchable] at hinspect
  have htextless : textlessFault.message.toOption = none := by decide +kernel
  cases hmessage : textlessFault.message with
  | ok text =>
    rw [hmessage] at htextless
    cases htextless
  | error fault =>
    rw [hmessage] at hinspect
    rcases inspectFile_ends (load_replying _) hrun with
      ⟨⟨_, _, _, hun⟩, -⟩ | ⟨a, ha, -, rfl, -⟩ | ⟨i, hi, -⟩
    · cases readText_sample.symm.trans hun
    · cases hinspect.symm.trans ha
      exact ⟨fault, st, rfl, rfl⟩
    · cases hinspect.symm.trans hi

end Program

end ParseBench
