import StructuralTyping.Json.Complaint
import StructuralTyping.Log
import StructuralTyping.Syntax.Decode

/-! # The command line

What the program does for given arguments and files, as a function: `Invocation.ofArgs` reads the
arguments, and `run` gives the exit code and what is printed.  Files are whatever `Files` says they
are. -/

namespace StructuralTyping.CommandLine

/-- The contents of a file by its path, or the reason why it cannot be read. -/
abbrev Files := String → Except String String

/-- How a report is printed. -/
inductive Format where
  | human
  | json
deriving DecidableEq

/-- What a check is asked to do. -/
structure Request where
  input : String
  source : Option String := none
  dumpTypes : Bool := false
  format : Format := .human
  verbose : Bool := false

/-- What the arguments of the program ask for. -/
inductive Invocation where
  | check (r : Request)
  | version
  | help
  /-- The arguments make no sense. -/
  | misuse

/-! ### Arguments -/

/-- The options found so far; what was not given is absent. -/
structure Options where
  input : Option String := none
  source : Option String := none
  dumpTypes : Bool := false
  format : Option Format := none
  verbose : Bool := false

namespace Options

/-- The request that options make once all arguments are read; without an input there is none. -/
def request? (o : Options) : Invocation :=
  match o.input with
  | none => .misuse
  | some input =>
    .check
      { input
        source := o.source
        dumpTypes := o.dumpTypes
        format := o.format.getD .human
        verbose := o.verbose }

/-- A positional argument: there is one, and a path is not empty. -/
def withInput? (o : Options) (value : String) : Option Options :=
  if value.isEmpty || o.input.isSome then none else some { o with input := some value }

/-- The options that take a value, each at most once. -/
def withValue? (o : Options) (name value : String) : Option Options :=
  match name with
  | "source" =>
    if value.isEmpty || o.source.isSome then none else some { o with source := some value }
  | "format" =>
    if o.format.isSome then none
    else
      match value with
      | "human" => some { o with format := some .human }
      | "json" => some { o with format := some .json }
      | _ => none
  | _ => none

/-- The options that take no value, each at most once. -/
def withFlag? (o : Options) (name : String) : Option Options :=
  match name with
  | "dump-types" => if o.dumpTypes then none else some { o with dumpTypes := true }
  | "verbose" => if o.verbose then none else some { o with verbose := true }
  | _ => none

/-- Whether the argument after this option belongs to it. -/
def takesValue (name : String) : Bool := name == "source" || name == "format"

end Options

/-- Whether an argument is written like an option. -/
def isOption (arg : String) : Bool := arg.startsWith "-" && arg != "-"

/-- The name of a long option and its attached value. -/
def longOption? (arg : String) : Option (String × Option String) :=
  match arg.toList with
  | '-' :: '-' :: rest =>
    let name := String.ofList (rest.takeWhile (· != '='))
    match rest.dropWhile (· != '=') with
    | '=' :: value => some (name, some (String.ofList value))
    | _ => some (name, none)
  | _ => none

/-- The letters of a group of short options. -/
def shortOptions (o : Options) : List Char → Except Invocation Options
  | [] => .ok o
  | 'v' :: rest =>
    match o.withFlag? "verbose" with
    | some o => shortOptions o rest
    | none => .error .misuse
  | 'h' :: _ => .error .help
  | _ => .error .misuse

/-- What stands after the end of the options. -/
def positionals (o : Options) : List String → Invocation
  | [] => o.request?
  | value :: rest =>
    match o.withInput? value with
    | some o => positionals o rest
    | none => .misuse

/-- The arguments of a check. -/
def checkArgs (o : Options) : List String → Invocation
  | [] => o.request?
  | "--" :: rest => positionals o rest
  | arg :: rest =>
    match longOption? arg with
    | some ("help", none) => .help
    | some (name, some value) =>
      match o.withValue? name value with
      | some o => checkArgs o rest
      | none => .misuse
    | some (name, none) =>
      if Options.takesValue name then
        match rest with
        | [] => .misuse
        | value :: rest =>
          -- a value that looks like an option has to be attached with an equals sign
          if isOption value then .misuse
          else
            match o.withValue? name value with
            | some o => checkArgs o rest
            | none => .misuse
      else
        match o.withFlag? name with
        | some o => checkArgs o rest
        | none => .misuse
    | none =>
      -- a single dash with letters; a dash alone is a path
      if isOption arg then
        match shortOptions o (arg.toList.drop 1) with
        | .ok o => checkArgs o rest
        | .error i => i
      else
        match o.withInput? arg with
        | some o => checkArgs o rest
        | none => .misuse

namespace Invocation

/-- What the arguments ask for. -/
def ofArgs : List String → Invocation
  | "check" :: rest => checkArgs {} rest
  | "help" :: rest => if rest = [] ∨ rest = ["check"] ∨ rest = ["help"] then .help else .misuse
  | "--version" :: _ => .version
  | "--help" :: _ => .help
  | arg :: _ =>
    if arg.startsWith "-V" then .version
    else if arg.startsWith "-h" then .help
    else .misuse
  | [] => .misuse

end Invocation

/-! ### Running -/

/-- The exit code and what is printed; errors are lines. -/
structure Output where
  code : UInt32 := 0
  stdout : String := ""
  stderr : List String := []

/-- Why no program could be read from a path. -/
inductive ReadError where
  | unreadable (path reason : String)
  /-- The text holds no program; a complaint says why if it is not even a document. -/
  | malformedTree (path : String) (complaint : Option Json.Complaint)

namespace ReadError

/-- The line printed instead of a report. -/
def message : ReadError → String
  | .unreadable path reason => "cannot read " ++ path ++ ": " ++ reason
  | .malformedTree path complaint =>
    let reason := match complaint with
      | some c => ": " ++ c.message
      | none => ""
    "malformed program tree in " ++ path ++ reason

end ReadError

/-- The contents of a file. -/
def readText (files : Files) (path : String) : Except ReadError String :=
  (files path).mapError (.unreadable path)

/-- The program in a file. -/
def readProgram (files : Files) (path : String) : Except ReadError Program := do
  let text ← readText files path
  match Program.parse? text with
  | some p => .ok p
  | none => .error (.malformedTree path (Json.complaint? text))

/-- The contents of a file that may not be asked for. -/
def readOptional (files : Files) : Option String → Except ReadError (Option String)
  | none => .ok none
  | some path => (readText files path).map some

/-- A diagnostic with the line of source text that it is about.  The line is quoted, so that its
control characters do not reach the terminal. -/
def excerpt (source : String) (d : Diagnostic) : List String :=
  let lines := (source.splitOn "\n").drop (d.failure.span.line.toNat - 1)
  ["Type error: " ++ d.message, "  at " ++ d.place] ++
    (lines.take 1).map fun line => "  | " ++ Text.quoted line

/-- Whether a diagnostic can be drawn into the source text: its place must not end before it
starts. -/
def isDrawable (d : Diagnostic) : Bool := decide (d.failure.span.start ≤ d.failure.span.stop)

/-- What is printed for the diagnostics of a check. -/
structure Rendering where
  lines : List String
  /-- Whether a diagnostic could not be drawn, so that those after it are missing too. -/
  broken : Bool

/-- Diagnostics on lines of their own, or drawn into the source text if it is given. -/
def rendering (source : Option String) (ds : List Diagnostic) : Rendering :=
  match source with
  | none => { lines := ds.map Diagnostic.plain, broken := false }
  | some text =>
    { lines := (ds.takeWhile isDrawable).flatMap (excerpt text), broken := !ds.all isDrawable }

/-- The exit code of a run that breaks off. -/
def brokenCode : UInt32 := 101

/-- How many faults there were. -/
def verdict : Nat → String
  | 0 => "Type check passed!"
  | 1 => "1 type error"
  | n => n.repr ++ " type errors"

/-- A log record on one line. -/
def logLine (r : LogRecord) : String :=
  r.level.name ++ " " ++ r.message ++
    String.join (r.values.map fun (name, value) => " " ++ name ++ "=" ++ value)

/-- The part of the log that a verbose check shows. -/
def logLines (r : Report) : List String :=
  (r.log.filter fun record => record.level == .info || record.level == .debug).map logLine

/-- A report for people.  It breaks off at a diagnostic that cannot be drawn. -/
def human (r : Report) (source : Option String) (dumpTypes : Bool) : Output :=
  let listing := if dumpTypes then r.table.listing else ""
  let faults := rendering source r.diagnostics
  let summary := verdict r.diagnostics.length
  if faults.broken then
    { code := brokenCode
      stdout := listing
      stderr := faults.lines ++ ["a diagnostic ends before it starts"] }
  else if r.hasErrors then { code := 1, stdout := listing, stderr := faults.lines ++ [summary] }
  else { stdout := listing ++ summary ++ "\n" }

/-- A report as a document. -/
def json (r : Report) : Output :=
  { code := if r.hasErrors then 1 else 0, stdout := r.document ++ "\n" }

/-- Checks the program in a file.  The program is read before the source text. -/
def check (files : Files) (request : Request) : Output :=
  let loaded := do
    let program ← readProgram files request.input
    let source ← readOptional files request.source
    .ok (program, source)
  match loaded with
  | .error (e : ReadError) => { code := 1, stderr := ["error: " ++ e.message] }
  | .ok (program, source) =>
    let report := Report.ofProgram program
    let output := match request.format with
      | .human => human report source request.dumpTypes
      | .json => json report
    if request.verbose then { output with stderr := logLines report ++ output.stderr } else output

/-- How to call the program, on one line. -/
def usage : String :=
  "Usage: sable check <INPUT> [--source <SOURCE>] [--dump-types] [--format <human|json>] [-v]"

/-- What the program does. -/
def run (files : Files) (args : List String) : Output :=
  match Invocation.ofArgs args with
  | .check request => check files request
  | .version => { stdout := "sable 0.1.0\n" }
  | .help => { stdout := usage ++ "\n" }
  | .misuse => { code := 2, stderr := [usage] }

/-- The paths that a run may read. -/
def paths (args : List String) : List String :=
  match Invocation.ofArgs args with
  | .check request => request.input :: request.source.toList
  | _ => []

end StructuralTyping.CommandLine
