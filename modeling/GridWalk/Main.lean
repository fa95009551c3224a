import GridWalk.Cli.Session

/-!
# `GridWalk.Main`: the program

Reads the arguments and the file, prints the answer, and writes the calls of the drawing, one per
line, to the file that was asked for.
-/

set_option autoImplicit false

open GridWalk GridWalk.Cli

/-- The failure that the system numbers `code`. The number may come with a minus sign. -/
def failureOf (code : UInt32) (details : String) : FileError :=
  match min code (0 - code) with
  | 20 => .notFolder
  | 21 => .isFolder
  | 36 => .nameTooLong
  | _ => .failed details

/-- Reads a file from disk. -/
def readInput (path : String) : IO (Except FileError (List UInt8)) := do
  try
    let bytes ← IO.FS.readBinFile path
    return .ok bytes.toList
  catch
    | .noFileOrDirectory .. => return .error .notFound
    | .permissionDenied .. => return .error .denied
    | .inappropriateType _ code details => return .error (failureOf code details)
    | .invalidArgument _ code details => return .error (failureOf code details)
    | e => return .error (.failed e.toString)

/-- Prints the answer of a session and gives its exit status. -/
def report (s : Session) (path : Option String) : IO UInt32 := do
  let out ← IO.getStdout
  out.putStr s.output
  let err ← IO.getStderr
  let time ← IO.monoMsNow
  err.putStr (s.errorOutput (toString time))
  match path with
  | some path =>
    unless s.drawing.isEmpty do
      IO.FS.writeFile path (Session.printed (s.drawing.map fun call => call.json.compact))
  | none => pure ()
  return s.status.toUInt32

/-- Prints a fault of the arguments. -/
def complain (f : Fault) : IO UInt32 := do
  let err ← IO.getStderr
  err.putStrLn f.message
  return 1

/-- The program. -/
def main (arguments : List String) : IO UInt32 := do
  match Options.ofArguments arguments with
  | .error stop =>
    match Session.ofStop stop with
    | .error f => complain f
    | .ok s => report s none
  | .ok o =>
    match Session.checkPath o.input with
    | .error f => complain f
    | .ok () => report (Session.ofFile o (← readInput o.input)) o.plot
