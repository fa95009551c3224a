import GridWalk.Cli.Folder
import GridWalk.Cli.Options
import GridWalk.Observer.Logging
import GridWalk.Observer.Recorder
import GridWalk.Observer.Trace
import GridWalk.Plot
import GridWalk.Report
import GridWalk.Text.Lines

/-!
# `GridWalk.Cli.Session`: what the command line does with a file

`Session.ofFile` is all that happens between reading the file and writing the answer: the text is
run under the observers that the options ask for, and the answer is put together. Neither the
plot nor the log changes what is printed. `Session.ofArguments` adds the reading of arguments
and of a file in a folder. The order in which sets are gone through shows in the drawing alone.
-/

set_option autoImplicit false

namespace GridWalk.Cli

/-- What the program answers: its exit status, its output, its diagnostics and a drawing. -/
structure Session where
  status : Nat
  output : String
  records : List Record
  /-- The line about wrong use, if that is what ended the program. -/
  complaint : Option String
  drawing : List DrawCall

/-- The state that the observers of a session write to. -/
abbrev Watch : Type → Type :=
  StateT Recorder (StateT Trace (StateM Log))

namespace Session

/-- The source of the records of the command line. -/
def source : String := "robot_journeys.main"

/-- Texts as lines of output. -/
def printed (lines : List String) : String :=
  String.join (lines.map fun line => line ++ "\n")

/-- The file to draw to. An empty name asks for no drawing. -/
def plotPath? (o : Options) : Option String :=
  o.plot.filter fun path => !path.isEmpty

/-- The observers that the options ask for, in the order in which they get events. -/
def observers (o : Options) : List (Observer Watch) :=
  (if o.visualise then [Trace.observer Picture.defaultRange] else [])
    ++ (if (plotPath? o).isSome then [Recorder.observer] else [])
    ++ if o.level = .debug then [Event.logger Event.defaultSource] else []

/-- The run of a text under the observers. -/
def watch (o : Options) (text : String) : ((Run × Recorder) × Trace) × Log :=
  (((Run.ofText (Hooks.logging (Observer.all (observers o))) text).run Recorder.empty).run
    Trace.empty).run Log.empty

/-- The printed answer: the report, or a header, the trace and the output lines. -/
def answer (o : Options) (name : String) (r : Run) (trace : Trace) : String :=
  if o.json then printed [(Report.ofRun name r).json.indented]
  else
    let header :=
      "Processing file " ++ name ++ if o.visualise then " with visualisation" else ""
    printed ([header] ++ trace.entries.toList ++ r.lines)

/-- The drawing that was asked for, and the record about it. A document that was not driven has
no drawing. -/
def draw (o : Options) (name : String) (r : Run) (recorder : Recorder) (order : CellSet.Order) :
    List DrawCall × List Record :=
  match plotPath? o, r.arena? with
  | none, _ => ([], [])
  | some path, some a =>
    (Plot.calls a recorder.trips name path (order a.obstacles),
      [⟨.info, source, "Trajectory plot written to " ++ path⟩])
  | some _, none =>
    ([], [⟨.warning, source, "No trajectory plot written: the document was rejected"⟩])

/-- The session on a text. -/
def ofText (o : Options) (text : String) (order : CellSet.Order := CellSet.arranged) : Session :=
  let name := fileName o.input
  let (((r, recorder), trace), log) := watch o text
  let (drawing, notes) := draw o name r recorder order
  let records := log.atLeast o.level ++ notes.filter fun n => n.level.shownAt o.level
  ⟨0, answer o name r trace, records, none, drawing⟩

/-- The session on what reading the file gave. -/
def ofFile (o : Options) (content : Except FileError (List UInt8))
    (order : CellSet.Order := CellSet.arranged) : Session :=
  let text : Except FileError String := do
    match Text.Utf8.decodeMarked (← content) with
    | .ok text => return text
    | .error e => throw (.badText e)
  match text with
  | .ok text => ofText o text order
  | .error e => ⟨1, printed [e.message o.input], [], none, []⟩

/-- How the program is used. -/
def usage : String :=
  "usage: main.py [-h] [-v] [--json] [--plot IMAGE] [--log-level LEVEL] input_file"

/-- The session of arguments that ask for no run. A fault has none. Of the help only the line on
use is given: what it says of the program and of each option is left out. -/
def ofStop : Stop → Except Fault Session
  | .help => .ok ⟨0, printed [usage], [], none, []⟩
  | .usage e => .ok ⟨2, "", [], some ("main.py: error: " ++ e.message), []⟩
  | .fault f => .error f

/-- A path without the null character. -/
def checkPath (path : String) : Except Fault Unit :=
  if path.toList.contains (Char.ofNat 0) then .error .nullInPath else .ok ()

/-- The session of a command line over a folder. -/
def ofArguments (arguments : List String) (f : Folder)
    (order : CellSet.Order := CellSet.arranged) : Except Fault Session :=
  match Options.ofArguments arguments with
  | .error stop => ofStop stop
  | .ok o => do
    if o.input ∉ f.denied then checkPath o.input
    return ofFile o (f.readAt o.input) order

/-- A record as a line of diagnostics, at a time. -/
def recordLine (time : String) (r : Record) : String :=
  time ++ " " ++ r.level.name ++ " [" ++ r.source ++ "] " ++ r.message

/-- The diagnostics as a text. -/
def errorOutput (s : Session) (time : String) : String :=
  printed (s.records.map (recordLine time) ++ s.complaint.toList)

/-- The lines of the diagnostics. A line break in a message breaks the line. -/
def errorLines (s : Session) (time : String) : List String :=
  Text.lines (s.errorOutput time)

end Session

end GridWalk.Cli
