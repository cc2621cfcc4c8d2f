import RegisterMachine.CommandLine.Options
import RegisterMachine.FileTree
import RegisterMachine.Machine
import RegisterMachine.Text.Utf8

set_option autoImplicit false
set_option relaxedAutoImplicit false

/-!
# Sessions

A session runs the program in a file as the command line asks. It prints what the program prints,
reports failures of its own, keeps a log and ends with an exit code. A log file is added to before
the program is read, so a program that is its own log file contains the first lines of its log. The
program runs on a stack that is assumed to have room always (`RegisterMachine.Machine.run`).

## Main definitions

* `RegisterMachine.CommandLine.Crash` — why a session breaks off without an exit code.
* `RegisterMachine.CommandLine.Options.load` — the machine that options and a file ask for.
* `RegisterMachine.CommandLine.Outcome` — all that a session leaves behind.
* `RegisterMachine.CommandLine.session` — a whole session.

## References

* [Spec] The expanded specification of the machine. (§6.3, "CLI".)
-/

namespace RegisterMachine.CommandLine

open Text

/-- Why a session breaks off without an exit code: an overlong integer in the program, a memory
that cannot be provided, an error that escaped from a step, or an option that was given only the
divider as its value. -/
inductive Crash
  | digitLimit (e : DigitLimit)
  | allocation (e : AllocationError)
  | escaped (cause : Cause)
  | blankMemorySize
  | blankLogFile
  deriving DecidableEq, Repr

/-- The wording of a crash. -/
def Crash.message : Crash → String
  | .digitLimit e => e.message
  | .allocation e => e.message
  | .escaped cause => cause.message
  | .blankMemorySize => "'<=' not supported between instances of 'list' and 'int'"
  | .blankLogFile => "expected str, bytes or os.PathLike object, not list"

/-- Why a session does not get to run a program. -/
inductive Refusal
  | message (text : String)
  | crash (crash : Crash)
  deriving DecidableEq, Repr

namespace Options

/-- The least level of log records that are shown on the console. -/
def consoleLevel (options : Options) : Log.Level :=
  if options.trace then .debug else if options.verbose then .info else .warning

/-- The log file, in its shortest spelling, if there is one. -/
def logPath? (options : Options) : Except Crash (Option String) :=
  match options.logFile with
  | .absent => .ok none
  | .given path => .ok (some (normalizePath path))
  | .blank => .error .blankLogFile

/-- The records at the start of a session with a log file, or with none. -/
def opening (options : Options) (logPath? : Option String) : Array Log.Record :=
  (logPath?.toList.map Log.Record.logFile
    ++ [Log.Record.consoleLevel options.consoleLevel]).toArray

/-- The configuration that the options ask for. -/
def config (options : Options) : Except Refusal Config :=
  let trace := if options.trace then some true else none
  let configured (memorySize : Option Int) : Except Refusal Config :=
    match Config.default.override { memorySize, trace } with
    | .ok config => .ok config
    | .error e => .error (.message ("Configuration error: " ++ e.message))
  match options.memorySize with
  | .absent => configured none
  | .given n => configured (some n)
  | .blank => .error (.crash .blankMemorySize)

end Options

/-! ## Loading -/

/-- The source text in a file; line breaks are unified. -/
def readSource (name : String) : Option (List UInt8) → Except Refusal String
  | none => .error (.message "File not found")
  | some bytes =>
    match Utf8.decode bytes with
    | .ok cs => .ok (String.ofList (unifyBreaks cs))
    | .error flaw => .error (.message ("Error reading " ++ name ++ ": " ++ flaw.message))

/-- A fresh machine with a linked source text, or why there is none. -/
def linkSource (config : Config) (source : String) : Except Refusal Machine :=
  match Machine.load config .freshConsole source with
  | .ok machine => .ok machine
  | .error (.link (.fault fault)) => .error (.message ("Link error: " ++ fault.report))
  | .error (.link (.digitLimit e)) => .error (.crash (.digitLimit e))
  | .error (.allocation e) => .error (.crash (.allocation e))

/-- The machine that the options and the content of the input file, if there is such a file, ask
for. Its log starts with the given records. -/
def Options.load (options : Options) (opening : Array Log.Record) (file : Option (List UInt8)) :
    Except Refusal Machine := do
  let source ← readSource options.input file
  let config ← options.config
  let machine ← linkSource config source
  let opened := { machine with log := opening ++ machine.log }
  return opened.report (.loaded options.input machine.program.size machine.program.labels.size)

/-! ## Sessions -/

/-- All that a session leaves behind: its exit code, what it has written, its log, the least level
shown of it on the console, and the files. -/
structure Outcome where
  exitCode : Nat
  stdout : String := ""
  stderr : String := ""
  log : Array Log.Record := #[]
  consoleLevel : Log.Level := .warning
  files : FileTree
  deriving DecidableEq, Repr

/-- The records shown on the console. -/
def Outcome.console (outcome : Outcome) : List Log.Record :=
  outcome.log.toList.filter (·.level.passes outcome.consoleLevel)

/-- What a host has written to its text stream. -/
def streamOf : Host → String
  | .console host => host.stream
  | .capture host => host.text

/-- The exit code for a machine that has stopped. -/
def exitCode (machine : Machine) : Nat :=
  if machine.state = .faulted then 1 else 0

/-- The text about refused arguments. -/
def refusalText (message : String) : String :=
  usage ++ "asmvm: error: " ++ message ++ "\n"

/-- The files after records have been added to a log file, if there is one. All directories on the
way to it are created. -/
def appendLog (stamp : Log.Stamp) (logPath? : Option String) (records : List Log.Record)
    (files : FileTree) : FileTree :=
  match logPath? with
  | none => files
  | some path =>
    let lines := String.join (records.map (·.line stamp))
    (files.makeParents path).append path lines.toUTF8.toList

/-- Runs the program that the options ask for, at most so many steps. -/
def Options.execute (fuel : Nat) (stamp : Log.Stamp) (files : FileTree) (options : Options) :
    Except Crash Outcome := do
  let logPath? ← options.logPath?
  let opening := options.opening logPath?
  let files := appendLog stamp logPath? opening.toList files
  match options.load opening (files.read? options.input) with
  | .error (.crash crash) => throw crash
  | .error (.message text) =>
    return {
      exitCode := 1
      stderr := text ++ "\n"
      log := opening
      consoleLevel := options.consoleLevel
      files }
  | .ok machine =>
    let stopped := machine.run fuel
    if let some cause := stopped.escaped? then throw (.escaped cause)
    return {
      exitCode := exitCode stopped
      stdout := streamOf stopped.host
      log := stopped.log
      consoleLevel := options.consoleLevel
      files := appendLog stamp logPath? (stopped.log.toList.drop opening.size) files }

/-- A whole session with the given arguments, at most so many steps long. The stamp goes into the
lines of a log file. [Spec, §6.3] -/
def session (fuel : Nat) (stamp : Log.Stamp) (files : FileTree) (arguments : List String) :
    Except Crash Outcome :=
  match parse arguments with
  | .refuse message => .ok { exitCode := 2, stderr := refusalText message, files }
  | .print text => .ok { exitCode := 0, stdout := text, files }
  | .run options => options.execute fuel stamp files

end RegisterMachine.CommandLine
