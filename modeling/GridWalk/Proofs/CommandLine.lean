import GridWalk.Cli.Session
import GridWalk.Proofs.Cli.Arguments
import GridWalk.Proofs.PictureTrace
import GridWalk.Proofs.Text.Utf8

/-!
# `GridWalk.Proofs.CommandLine`: what is printed, and what it depends on

A session runs the text of its file under the observers that its options ask for. Each of them
writes to a layer of its own, so the accounts can be taken off layer by layer: the recorder, then
the trace, then the log. What is left is the run when nobody watches. The output is made of the run
and the trace, so the options for a plot and a level do not show in it.

* `Session.keeps_recorder` and `Session.keeps_trace`: the accounts of a session.
* `Session.watch_eq`: what watching a run gives.
* `Session.ofText_eq` and `Session.ofFile_congr`: what a session on a text and on a file prints.
* `command_line_prints_run`: the whole command line.
* `level_lost_in_mark`: arguments that get through without a level, and then there is no session.
-/

set_option autoImplicit false

namespace GridWalk.Cli

open GridWalk.Observer (Keeps)
open GridWalk.Text (Utf8.DecodeError Utf8.decodeMarked Utf8.encode Utf8.mark Utf8.markChar)

namespace Session

/-! ### Watching -/

/-- What the observers of a session do besides recording. -/
def tracing (o : Options) : Observer (StateT Trace (StateM Log)) :=
  ((Trace.observer Picture.defaultRange).onlyIf (o.visualise = true)).both
    ((Event.logger Event.defaultSource).onlyIf (o.level = .debug))

/-- What the observers of a session do besides recording and tracing. -/
def telling (o : Options) : Observer (StateM Log) :=
  (Event.logger Event.defaultSource).onlyIf (o.level = .debug)

/-- The observers of a session, each under its condition. -/
theorem all_observers (o : Options) :
    Observer.all (observers o) =
      ((Trace.observer Picture.defaultRange).onlyIf (o.visualise = true)).both
        ((Recorder.observer.onlyIf ((plotPath? o).isSome = true)).both
          ((Event.logger Event.defaultSource).onlyIf (o.level = .debug))) := by
  rw [observers, List.append_assoc, Observer.all_append, Observer.all_append, Observer.all_ite,
    Observer.all_ite, Observer.all_ite]

/-- The recorder is an account, if there is one. -/
theorem keeps_recorder (o : Options) :
    Keeps (fun _ r e => if (plotPath? o).isSome = true then r.note e else r) (tracing o)
      (Observer.all (observers o)) := by
  have htrace : Keeps (fun _ r _ => r) (Trace.observer Picture.defaultRange)
      (Trace.observer Picture.defaultRange : Observer Watch) := fun _ _ _ => rfl
  have hrecorder : Keeps (fun _ r e => r.note e) Observer.silent
      (Recorder.observer : Observer Watch) := fun _ _ _ => rfl
  have hlogger : Keeps (fun _ r _ => r) (Event.logger Event.defaultSource)
      (Event.logger Event.defaultSource : Observer Watch) := fun _ _ _ => rfl
  have hall := (htrace.onlyIf (o.visualise = true)).both
    ((hrecorder.onlyIf ((plotPath? o).isSome = true)).both (hlogger.onlyIf (o.level = .debug)))
  rw [all_observers]
  simpa [tracing] using hall

/-- The trace is an account, if there is one. -/
theorem keeps_trace (o : Options) :
    Keeps (fun a t e => if o.visualise = true then t.note Picture.defaultRange a e else t)
      (telling o) (tracing o) := by
  have htrace : Keeps (Trace.note Picture.defaultRange) Observer.silent
      (Trace.observer Picture.defaultRange : Observer (StateT Trace (StateM Log))) :=
    fun _ _ _ => rfl
  have hlogger : Keeps (fun _ t _ => t) (Event.logger Event.defaultSource)
      (Event.logger Event.defaultSource : Observer (StateT Trace (StateM Log))) :=
    fun _ _ _ => rfl
  have hall := (htrace.onlyIf (o.visualise = true)).both (hlogger.onlyIf (o.level = .debug))
  simpa [tracing, telling] using hall

/-- A session watches the run of the text. The recorder and the trace are accounts of the run if
they were asked for, and empty otherwise. -/
theorem watch_eq (o : Options) (text : String) :
    ∃ log, watch o text = (((run text,
      (run text).account (fun _ r e => if (plotPath? o).isSome = true then r.note e else r)
        Recorder.empty),
      if o.visualise = true then (run text).account (Trace.note Picture.defaultRange) Trace.empty
      else Trace.empty), log) := by
  -- The accounts are taken off in the order of the layers, and the log is what is left.
  let tell : Record → StateM Log Unit := fun r => modifyThe Log fun log => log.add r
  let pass : Record → StateT Trace (StateM Log) Unit := fun r => tell r
  let recorder : Recorder := (run text).account
    (fun _ r e => if (plotPath? o).isSome = true then r.note e else r) Recorder.empty
  let trace : Trace := (run text).account
    (fun a t e => if o.visualise = true then t.note Picture.defaultRange a e else t) Trace.empty
  have hrecorder : (Run.ofText (Hooks.logging (Observer.all (observers o))) text).run Recorder.empty
      = do
        let r ← Run.ofText ⟨tracing o, pass⟩ text
        return (r, recorder) :=
    (keeps_recorder o).ofText_run pass text Recorder.empty
  have htrace : (Run.ofText ⟨tracing o, pass⟩ text).run Trace.empty
      = do
        let r ← Run.ofText ⟨telling o, tell⟩ text
        return (r, trace) :=
    (keeps_trace o).ofText_run tell text Trace.empty
  have hlog : (Run.ofText ⟨telling o, tell⟩ text).run Log.empty
      = (run text, ((Run.announce ⟨telling o, tell⟩ text).run Log.empty).2) := by
    rw [Run.ofText_eq]
    rfl
  have htaken : trace = if o.visualise = true then
      (run text).account (Trace.note Picture.defaultRange) Trace.empty else Trace.empty := by
    by_cases hvisualise : o.visualise = true
    · simp only [trace, if_pos hvisualise]
    · simp only [trace, if_neg hvisualise, Run.account_unchanged]
  refine ⟨((Run.announce ⟨telling o, tell⟩ text).run Log.empty).2, ?_⟩
  rw [watch, hrecorder, StateT.run_bind, htrace, ← htaken]
  simp only [bind_pure_comp, StateT.run_pure, Functor.map_map, StateT.run_map, hlog]
  rfl

/-! ### The answer -/

/-- The file to draw to is the one that was asked for, unless its name is empty. -/
theorem plotPath?_eq_some_iff {o : Options} {path : String} :
    plotPath? o = some path ↔ o.plot = some path ∧ path ≠ "" := by
  simp [plotPath?, Option.filter_eq_some_iff]

/-- The session on a text exits with status 0. It prints the answer for the run and its trace, and
it draws when a file for that was named and journeys were driven. -/
theorem ofText_eq (o : Options) (text : String) (order : CellSet.Order) :
    (ofText o text order).status = 0 ∧
      (ofText o text order).output = answer o (fileName o.input) (run text)
        (if o.visualise = true then (Run.traced Picture.defaultRange text).2 else Trace.empty) ∧
      ((ofText o text order).drawing ≠ [] ↔
        (∃ path, o.plot = some path ∧ path ≠ "") ∧ (run text).isCompleted = true) := by
  obtain ⟨log, hwatch⟩ := watch_eq o text
  unfold ofText
  rw [hwatch, Run.traced_eq]
  refine ⟨rfl, rfl, ?_⟩
  show (draw o (fileName o.input) (run text) _ order).1 ≠ [] ↔ _
  simp only [← plotPath?_eq_some_iff]
  unfold draw
  cases plotPath? o with
  | none => simp
  | some path =>
    cases run text with
    | unreadable e => simp [Run.arena?, Run.isCompleted]
    | rejected r => simp [Run.arena?, Run.isCompleted]
    | completed a outcomes => simp [Run.arena?, Run.isCompleted, Plot.calls]

/-- The answer does not show the options for a plot and a level. With a report it does not show the
trace either. -/
theorem answer_congr {o o' : Options} (hjson : o'.json = o.json)
    (hvisualise : o'.visualise = o.visualise ∨ o.json = true) (name : String) (r : Run)
    (trace : Trace) :
    answer o' name r (if o'.visualise = true then trace else Trace.empty)
      = answer o name r (if o.visualise = true then trace else Trace.empty) := by
  unfold answer
  rw [hjson]
  split
  · rfl
  · next hplain =>
    rw [hvisualise.resolve_right hplain]

/-- A file that is a text gives the session on the text. -/
theorem ofFile_text {o : Options} {bytes : List UInt8} {text : String}
    (h : Utf8.decodeMarked bytes = .ok text) (order : CellSet.Order) :
    ofFile o (.ok bytes) order = ofText o text order := by
  show ofFile o (.ok bytes) order = _
  unfold ofFile
  simp only [bind, Except.bind, h]
  rfl

/-- A file that is no text gives its error. -/
theorem ofFile_badText {o : Options} {bytes : List UInt8} {d : Utf8.DecodeError}
    (h : Utf8.decodeMarked bytes = .error d) (order : CellSet.Order) :
    ofFile o (.ok bytes) order
      = ⟨1, printed [(FileError.badText d).message o.input], [], none, []⟩ := by
  unfold ofFile
  simp only [bind, Except.bind, h]
  rfl

/-- A name without slashes is shown as it is given. A single dot is no name. -/
theorem fileName_eq_self {name : String} (hslash : '/' ∉ name.toList) (hdot : name ≠ ".") :
    fileName name = name := by
  have hparts : name.toList.splitOn '/' = [name.toList] := List.splitOn_eq_singleton hslash
  unfold fileName components
  rw [hparts]
  by_cases hempty : name = ""
  · rw [hempty]
    rfl
  · simp [hempty, hdot]

/-- Accepted arguments lead to the file that they name. -/
theorem ofArguments_eq {arguments : List String} {o : Options}
    (hargs : Options.ofArguments arguments = .ok o) (hname : Char.ofNat 0 ∉ o.input.toList)
    (f : Folder) (order : CellSet.Order) :
    ofArguments arguments f order = .ok (ofFile o (f.readAt o.input) order) := by
  have hpath : checkPath o.input = .ok () := if_neg (by simpa using hname)
  unfold ofArguments
  rw [hargs]
  dsimp only
  split
  · rw [hpath]
    rfl
  · rfl

/-- What is printed and the exit status come from the file, its name, and whether a report or a
trace was asked for. -/
theorem ofFile_congr {o o' : Options} (hinput : o'.input = o.input) (hjson : o'.json = o.json)
    (hvisualise : o'.visualise = o.visualise ∨ o.json = true)
    (content : Except FileError (List UInt8)) (order order' : CellSet.Order) :
    (ofFile o' content order').status = (ofFile o content order).status ∧
      (ofFile o' content order').output = (ofFile o content order).output := by
  cases content with
  | error e =>
    show 1 = 1 ∧ printed [e.message o'.input] = printed [e.message o.input]
    rw [hinput]
    exact ⟨rfl, rfl⟩
  | ok bytes =>
    cases hread : Utf8.decodeMarked bytes with
    | error d =>
      rw [ofFile_badText hread, ofFile_badText hread, hinput]
      exact ⟨rfl, rfl⟩
    | ok text =>
      obtain ⟨hstatus, houtput, -⟩ := ofText_eq o text order
      obtain ⟨hstatus', houtput', -⟩ := ofText_eq o' text order'
      rw [ofFile_text hread, ofFile_text hread, hstatus, hstatus', houtput, houtput', hinput]
      exact ⟨rfl, answer_congr hjson hvisualise _ _ _⟩

end Session

/-- The command line prints the result of the run, and nothing else than its output depends on the
options for a plot and a level.

Let arguments be accepted, and let the name of the input file be free of null characters. Then there
is a session. If the file holds a text as UTF-8, with or without one byte order mark in front, the
session exits with status 0, whatever becomes of the document. It prints a header with the name of
the file, then the trace if it was asked for, and then the output lines, each of them with a line
feed behind it, or it prints only the report if that was asked for. A name without slashes is shown
as it was given. It draws exactly when a file for that was named and the journeys were driven.
`--plot=--` names no file: by the rule of older releases (`Settings.assign`), the mark that ends the
options is no value.

If the file cannot be opened, or is no UTF-8, the session exits with status 1 and prints only the
error. Other accepted arguments that name the same file and agree on the report, and on the trace if
there is no report, lead to the same status and output, also when sets are gone through in another
order. In particular this is so for any plot and any level, and there are arguments that ask for
them. -/
theorem command_line_prints_run {arguments : List String} {o : Options}
    (hargs : Options.ofArguments arguments = .ok o) (hname : Char.ofNat 0 ∉ o.input.toList)
    (f : Folder) (order : CellSet.Order) :
    ∃ s, Session.ofArguments arguments f order = .ok s ∧
      (∀ text bytes, text.toList.head? ≠ some Utf8.markChar →
        (bytes = Utf8.encode text ∨ bytes = Utf8.mark ++ Utf8.encode text) →
        f.readAt o.input = .ok bytes →
          s.status = 0 ∧
          (o.json = false → s.output = Session.printed
            (("Processing file " ++ fileName o.input
                ++ if o.visualise then " with visualisation" else "")
              :: (if o.visualise then
                  (Run.traced Picture.defaultRange text).2.entries.toList else [])
              ++ execute text)) ∧
          (o.json = true → s.output = Session.printed
            [(Report.ofRun (fileName o.input) (run text)).json.indented]) ∧
          ('/' ∉ o.input.toList → o.input ≠ "." → fileName o.input = o.input) ∧
          (s.drawing ≠ [] ↔
            (∃ path, o.plot = some path ∧ path ≠ "") ∧ (run text).isCompleted = true)) ∧
      (∀ e, f.readAt o.input = .error e →
        s = ⟨1, Session.printed [e.message o.input], [], none, []⟩) ∧
      (∀ bytes d, f.readAt o.input = .ok bytes → Utf8.decodeMarked bytes = .error d →
        s = ⟨1, Session.printed [(FileError.badText d).message o.input], [], none, []⟩) ∧
      (∀ arguments' o' order', Options.ofArguments arguments' = .ok o' → o'.input = o.input →
        o'.json = o.json → (o'.visualise = o.visualise ∨ o.json = true) →
          ∃ s', Session.ofArguments arguments' f order' = .ok s' ∧ s'.status = s.status ∧
            s'.output = s.output) ∧
      ∀ plot level order', plot ≠ some endMark → ∃ arguments' s',
        Options.ofArguments arguments' = .ok { o with plot := plot, level := level } ∧
          Session.ofArguments arguments' f order' = .ok s' ∧ s'.status = s.status ∧
            s'.output = s.output := by
  have hsame : ∀ arguments' o' order', Options.ofArguments arguments' = .ok o' →
      o'.input = o.input → o'.json = o.json → (o'.visualise = o.visualise ∨ o.json = true) →
        ∃ s', Session.ofArguments arguments' f order' = .ok s' ∧
          s'.status = (Session.ofFile o (f.readAt o.input) order).status ∧
            s'.output = (Session.ofFile o (f.readAt o.input) order).output := by
    intro arguments' o' order' hargs' hinput hjson hvisualise
    have hsession := Session.ofArguments_eq hargs' (hinput.symm ▸ hname) f order'
    rw [hinput] at hsession
    exact ⟨_, hsession,
      Session.ofFile_congr hinput hjson hvisualise (f.readAt o.input) order order'⟩
  refine ⟨_, Session.ofArguments_eq hargs hname f order, ?_, ?_, ?_, hsame, ?_⟩
  · intro text bytes hhead hbytes hfile
    have hread : Utf8.decodeMarked bytes = .ok text := by
      rcases hbytes with rfl | rfl
      · exact Text.Utf8.decodeMarked_encode hhead
      · exact Text.Utf8.decodeMarked_mark_append text
    obtain ⟨hstatus, houtput, hdrawing⟩ := Session.ofText_eq o text order
    rw [hfile, Session.ofFile_text hread]
    refine ⟨hstatus, ?_, ?_, Session.fileName_eq_self, hdrawing⟩
    · intro hplain
      rw [houtput, Session.answer, if_neg (by simp [hplain])]
      dsimp only
      cases o.visualise with
      | false => rfl
      | true => rfl
    · intro hjson
      rw [houtput, Session.answer, if_pos hjson]
  · intro e hfile
    rw [hfile]
    rfl
  · intro bytes d hfile hbad
    rw [hfile, Session.ofFile_badText hbad]
  · intro plot level order' hplot
    let o' : Options := { o with plot := plot, level := level }
    have hargs' : Options.ofArguments o'.arguments = .ok o' :=
      Options.ofArguments_arguments hplot
    obtain ⟨s', hsession, hstatus, houtput⟩ :=
      hsame o'.arguments o' order' hargs' rfl rfl (.inl rfl)
    exact ⟨o'.arguments, s', hargs', hsession, hstatus, houtput⟩

/-- A folder with one file. -/
def Folder.single (name : String) (bytes : List UInt8) : Folder :=
  Folder.ofFiles [(name, .file bytes)] []

/-- A marked file with a document, and arguments that ask for a plot. -/
theorem command_line_prints_run_marked :
    ∃ s, Session.ofArguments ["--plot", "p.png", "j.txt"] (Folder.single "j.txt"
          (Utf8.mark ++ Utf8.encode "GRID 1x1\n0 0 N\nR\r\n0 0 E")) = .ok s ∧
      s.status = 0 ∧ s.output = "Processing file j.txt\nSUCCESS 0 0 E\n" ∧ s.drawing ≠ [] := by
  have hargs : Options.ofArguments ["--plot", "p.png", "j.txt"]
      = .ok ⟨"j.txt", false, false, some "p.png", .warning⟩ := by
    rfl
  obtain ⟨s, hsession, htext, -⟩ := command_line_prints_run hargs (by decide)
    (Folder.single "j.txt" (Utf8.mark ++ Utf8.encode "GRID 1x1\n0 0 N\nR\r\n0 0 E"))
    CellSet.arranged
  obtain ⟨hstatus, hplain, -, -, hdrawing⟩ := htext "GRID 1x1\n0 0 N\nR\r\n0 0 E" _ (by decide)
    (.inr rfl) rfl
  have hexecute : execute "GRID 1x1\n0 0 N\nR\r\n0 0 E" = ["SUCCESS 0 0 E"] := by
    decide +kernel
  have hcompleted : (run "GRID 1x1\n0 0 N\nR\r\n0 0 E").isCompleted = true := by
    decide +kernel
  refine ⟨s, hsession, hstatus, ?_, hdrawing.mpr ⟨⟨"p.png", rfl, by decide⟩, hcompleted⟩⟩
  rw [hplain rfl, hexecute]
  rfl

/-- The mark that ends the options is no value, so joined to the option for the level it takes the
level away. Such arguments are not refused, but there is no session, even for a file with a
document. By `Options.joinsMark_of_fault` no other arguments of the right use end like this. -/
theorem level_lost_in_mark :
    Options.ofArguments ["--log-level=--", "j.txt"] = .error (.fault .noLevel) ∧
      (Folder.single "j.txt" (Utf8.encode "GRID 2x2\n0 0 N\nF\n0 1 N")).readAt "j.txt"
        = .ok (Utf8.encode "GRID 2x2\n0 0 N\nF\n0 1 N") ∧
      ¬∃ s, Session.ofArguments ["--log-level=--", "j.txt"]
        (Folder.single "j.txt" (Utf8.encode "GRID 2x2\n0 0 N\nF\n0 1 N")) = .ok s := by
  have hargs : Options.ofArguments ["--log-level=--", "j.txt"] = .error (.fault .noLevel) := by
    rfl
  refine ⟨hargs, rfl, ?_⟩
  rintro ⟨s, hsession⟩
  rw [Session.ofArguments, hargs] at hsession
  cases hsession

end GridWalk.Cli
