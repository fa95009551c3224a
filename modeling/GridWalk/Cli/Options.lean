import GridWalk.Fault
import GridWalk.Log
import GridWalk.Text.DecimalDigit
import GridWalk.Text.Quoted

/-!
# `GridWalk.Cli.Options`: the options of the command line

Arguments are first sorted into words and then taken in order. `Word.ofArgument` tells an option
from a plain text: options may be shortened, joined to their value by `=`, and, if they are one
letter, joined to each other. `Settings.take` takes one word. `Options.ofArguments` does all of
it. Every error of use has its own message, and an error of sorting comes before any other.
-/

set_option autoImplicit false

namespace GridWalk.Cli

open GridWalk.Text (quoted isDecimalDigit)

/-- The options. -/
inductive Switch
  | help
  | visualise
  | json
  | plot
  | logLevel
deriving DecidableEq

namespace Switch

/-- The option needs a value. -/
def takesValue : Switch → Bool
  | plot | logLevel => true
  | _ => false

/-- The option as messages show it. -/
def label : Switch → String
  | help => "-h/--help"
  | visualise => "-v/--visualise"
  | json => "--json"
  | plot => "--plot"
  | logLevel => "--log-level"

/-- The names of the options, in the order in which messages list them. -/
def names : List (String × Switch) :=
  [("-h", help), ("--help", help), ("-v", visualise), ("--visualise", visualise),
    ("--json", json), ("--plot", plot), ("--log-level", logLevel)]

/-- The option with exactly this name. -/
def ofName? (name : String) : Option Switch :=
  names.lookup name

end Switch

/-- Why arguments are refused. -/
inductive UsageError
  /-- A shortened name fits several options. -/
  | ambiguous (argument : String) (names : List String)
  /-- An option stands without its value. -/
  | valueMissing (switch : Switch)
  /-- A value is joined to an option that takes none. -/
  | valueUnused (switch : Switch) (value : String)
  /-- There is no such level. -/
  | unknownLevel (value : String)
  /-- There is no input file. -/
  | inputMissing
  /-- Nothing is known about these arguments. -/
  | unrecognized (arguments : List String)
deriving DecidableEq

/-- The error in words. -/
def UsageError.message : UsageError → String
  | ambiguous argument names =>
    "ambiguous option: " ++ argument ++ " could match " ++ ", ".intercalate names
  | valueMissing s => "argument " ++ s.label ++ ": expected one argument"
  | valueUnused s value =>
    "argument " ++ s.label ++ ": ignored explicit argument " ++ quoted value
  | unknownLevel value =>
    "argument " ++ Switch.logLevel.label ++ ": invalid choice: " ++ quoted value
      ++ " (choose from "
      ++ ", ".intercalate (Level.all.map fun l => quoted l.name) ++ ")"
  | inputMissing => "the following arguments are required: input_file"
  | unrecognized arguments => "unrecognized arguments: " ++ " ".intercalate arguments

/-- The mark after which every argument is plain text. Joined to an option it is no value. -/
def endMark : String := "--"

/-- The text that an argument holds after the name of its option. -/
inductive Joined
  | nothing
  /-- A value after the sign `=`. -/
  | value (text : String)
  /-- What follows the letter of a short option, behind the sign `=` or directly. -/
  | letters (text : List Char)
deriving DecidableEq

/-- What an argument is. -/
inductive Word
  | plain (text : String)
  | endOfOptions
  /-- An option and the text joined to it. -/
  | option (switch : Switch) (joined : Joined)
  /-- It looks like an option, but there is none. -/
  | unknown (text : String)
deriving DecidableEq

namespace Word

/-- The texts before and after the first `mark`, if there is one. -/
def splitAtFirst (mark : Char) : List Char → Option (List Char × List Char)
  | [] => none
  | c :: rest =>
    if c = mark then some ([], rest)
    else (splitAtFirst mark rest).map fun parts => (c :: parts.1, parts.2)

/-- The text after the sign of a negative number: digits, with or without a decimal point and
digits in front of it. A line feed may follow. -/
def isUnsigned (text : List Char) : Bool :=
  let body := if text.getLast? = some '\n' then text.dropLast else text
  match splitAtFirst '.' body with
  | none => !body.isEmpty && body.all isDecimalDigit
  | some (whole, fraction) =>
    whole.all isDecimalDigit && !fraction.isEmpty && fraction.all isDecimalDigit

/-- The options that an argument with an unknown name may mean, each with its full name. A name
after two dashes may be cut short. A letter after one dash may be followed by more. -/
def candidates (argument : List Char) : List (String × Word) :=
  match argument with
  | '-' :: '-' :: _ =>
    let parts := splitAtFirst '=' argument
    let stem := (parts.map Prod.fst).getD argument
    let joined := (parts.map fun p => Joined.value (String.ofList p.2)).getD .nothing
    (Switch.names.filter fun entry => stem.isPrefixOf entry.1.toList).map fun entry =>
      (entry.1, option entry.2 joined)
  | sign :: letter :: rest =>
    (Switch.names.filter fun entry => entry.1 == String.ofList [sign, letter]).map fun entry =>
      (entry.1, option entry.2 (.letters rest))
  | _ => []

/-- The text that stands after a name and the sign `=`. After a short name it is read as letters,
if there are any. -/
def joinedTo (name value : List Char) : Joined :=
  match name, value with
  | '-' :: '-' :: _, _ | _, [] => .value (String.ofList value)
  | _, _ => .letters value

/-- An argument that is exactly the name of an option, or such a name with a text after `=`. -/
def named? (argument : String) : Option Word :=
  match Switch.ofName? argument with
  | some s => some (option s .nothing)
  | none =>
    match splitAtFirst '=' argument.toList with
    | none => none
    | some (name, value) =>
      (Switch.ofName? (String.ofList name)).map fun s => option s (joinedTo name value)

/-- Sorts one argument in front of the mark that ends the options. Negative numbers and texts
with spaces are plain, unless they begin like an option that exists. -/
def ofArgument (argument : String) : Except UsageError Word :=
  let chars := argument.toList
  if chars.head? ≠ some '-' ∨ chars.length = 1 then .ok (plain argument)
  else
    match named? argument with
    | some word => .ok word
    | none =>
      match candidates chars with
      | [(_, word)] => .ok word
      | [] =>
        if isUnsigned chars.tail ∨ ' ' ∈ chars then .ok (plain argument)
        else .ok (unknown argument)
      | several => .error (.ambiguous argument (several.map Prod.fst))

/-- Sorts all arguments. -/
def ofArguments : List String → Except UsageError (List Word)
  | [] => .ok []
  | argument :: rest =>
    if argument = endMark then .ok (endOfOptions :: rest.map plain)
    else do
      let word ← ofArgument argument
      let words ← ofArguments rest
      return word :: words

end Word

/-- Why the program does not get to its work. -/
inductive Stop
  /-- Help was asked for. -/
  | help
  | usage (error : UsageError)
  /-- The use is right, but a value is of no use. -/
  | fault (fault : Fault)
deriving DecidableEq

/-- What was asked for so far. -/
structure Settings where
  /-- The input file, and whether it was the last word. -/
  input : Option String
  afterInput : Bool
  visualise : Bool
  json : Bool
  plot : Option String
  /-- The level, if the option for it has a value. -/
  level : Option Level
  /-- An option that still waits for its value. -/
  waiting : Option Switch
  /-- The arguments that nothing is known about. -/
  extras : List String

namespace Settings

/-- Before the first argument. -/
def initial : Settings :=
  ⟨none, false, false, false, none, some .warning, none, []⟩

/-- An option without a value takes effect. -/
def turnOn (s : Settings) : Switch → Except Stop Settings
  | .help => .error .help
  | .visualise => .ok { s with visualise := true }
  | .json => .ok { s with json := true }
  | .plot | .logLevel => .ok s

/-- An option loses the value that it has. -/
def unset (s : Settings) : Switch → Settings
  | .plot => { s with plot := none }
  | .logLevel => { s with level := none }
  | _ => s

/-- An option takes effect with its value. The mark that ends the options is no value: joined to an
option, it takes away the value that the option has, so `--plot=--` asks for no drawing. Older
releases of the command line have this rule. In newer ones the mark is a value like any other. -/
def assign (s : Settings) (switch : Switch) (value : String) : Except Stop Settings :=
  if value = endMark then .ok (s.unset switch)
  else
    match switch with
    | .plot => .ok { s with plot := some value }
    | .logLevel =>
      match Level.ofName? value with
      | some level => .ok { s with level := some level }
      | none => .error (.usage (.unknownLevel value))
    | _ => .ok s

/-- The options that letters joined to `switch` stand for, `switch` among them. A letter that names
no option is an error, and so is all that follows it. -/
def cluster (switch : Switch) : List Char → Except Stop (List Switch)
  | [] => .ok [switch]
  | letter :: rest =>
    match Switch.ofName? (String.ofList ['-', letter]) with
    | some next => do
      let others ← cluster next rest
      return switch :: others
    | none => .error (.usage (.valueUnused switch (String.ofList (letter :: rest))))

/-- An option is taken. Of joined options either all take effect or none. -/
def takeOption (s : Settings) (switch : Switch) (joined : Joined) : Except Stop Settings :=
  match switch.takesValue, joined with
  | true, .nothing => .ok { s with waiting := some switch }
  | true, .value text => s.assign switch text
  | true, .letters text => s.assign switch (String.ofList text)
  | false, .nothing => s.turnOn switch
  | false, .value text => .error (.usage (.valueUnused switch text))
  | false, .letters text => do
    let switches ← cluster switch text
    switches.foldlM turnOn s

/-- One word is taken. An option that waits gets the next plain text. The mark that ends the
options belongs to the input file when it stands next to it. -/
def take (s : Settings) (word : Word) : Except Stop Settings :=
  match s.waiting, word with
  | some switch, .plain text => { s with waiting := none }.assign switch text
  | some switch, _ => .error (.usage (.valueMissing switch))
  | none, .plain text =>
    if s.input.isNone then .ok { s with input := some text, afterInput := true }
    else .ok { s with extras := s.extras ++ [text], afterInput := false }
  | none, .endOfOptions =>
    if s.input.isNone ∨ s.afterInput then .ok { s with afterInput := false }
    else .ok { s with extras := s.extras ++ [endMark] }
  | none, .unknown text => .ok { s with extras := s.extras ++ [text], afterInput := false }
  | none, .option switch joined => { s with afterInput := false }.takeOption switch joined

end Settings

/-- What the command line asks for. -/
structure Options where
  input : String
  visualise : Bool
  json : Bool
  plot : Option String
  level : Level
deriving DecidableEq

namespace Options

/-- The options, once all words are taken. A level without a value matters last. -/
def ofSettings (s : Settings) : Except Stop Options :=
  match s.waiting, s.input with
  | some switch, _ => .error (.usage (.valueMissing switch))
  | none, none => .error (.usage .inputMissing)
  | none, some input =>
    if s.extras.isEmpty then
      match s.level with
      | some level => .ok ⟨input, s.visualise, s.json, s.plot, level⟩
      | none => .error (.fault .noLevel)
    else .error (.usage (.unrecognized s.extras))

/-- What the arguments ask for, or why the program stops. -/
def ofArguments (arguments : List String) : Except Stop Options :=
  match Word.ofArguments arguments with
  | .error e => .error (.usage e)
  | .ok words => do
    let settings ← words.foldlM Settings.take Settings.initial
    ofSettings settings

end Options

end GridWalk.Cli
