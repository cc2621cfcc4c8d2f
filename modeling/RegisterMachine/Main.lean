import RegisterMachine.CommandLine.Session

set_option autoImplicit false
set_option relaxedAutoImplicit false

/-!
# The program

The command line as a program: it reads the files, prints, pauses and logs what a session says.
-/

namespace RegisterMachine.Main

open CommandLine

/-- Shows records on the console if they are important enough, and adds them to the log file. -/
def emit (level : Log.Level) (logFile? : Option IO.FS.Handle) (records : List Log.Record) :
    IO Unit := do
  for record in records do
    if record.level.passes level then
      IO.eprintln (Log.padRight 8 record.level.name ++ " " ++ record.message)
    if let some logFile := logFile? then
      let time := toString (← IO.monoMsNow) ++ " ms"
      logFile.putStr (record.line ⟨time, record.channel.name⟩)
      logFile.flush

/-- Opens a log file for appending; the directories on the way to it are created. -/
def openLog (path : String) : IO IO.FS.Handle := do
  let parents := (pathNames path).dropLast
  if !parents.isEmpty then
    IO.FS.createDirAll (String.ofList (pathRoot path.toList) ++ "/".intercalate parents)
  IO.FS.Handle.mk path .append

/-- The content of a file, if it can be read. -/
def contentOf (path : String) : IO (Option (List UInt8)) := do
  try
    let bytes ← IO.FS.readBinFile path
    return some bytes.toList
  catch _ => return none

/-- The milliseconds in a pause, rounded down. -/
def milliseconds (seconds : Number) : Nat :=
  match seconds.scalar with
  | .int n => 1000 * n.toNat
  | .double x => (x * 1000.0).toUInt64.toNat

/-- Does what a host has been asked to do, and forgets it. -/
def perform : Host → IO Host
  | .console host => do
    (← IO.getStdout).putStr host.stream
    (← IO.getStdout).flush
    for seconds in host.pauses do
      IO.sleep (milliseconds seconds).toUInt32
    return .console { host with stream := "", pauses := #[] }
  | host => return host

/-- Does what a machine has asked for, and forgets it. -/
def settle (level : Log.Level) (logFile? : Option IO.FS.Handle) (machine : Machine) :
    IO Machine := do
  emit level logFile? machine.log.toList
  let host ← perform machine.host
  return { machine with host, log := #[] }

/-- Executes steps until the machine stops. -/
partial def loop (level : Log.Level) (logFile? : Option IO.FS.Handle) (machine : Machine) :
    IO Machine := do
  if machine.isRunning then
    loop level logFile? (← settle level logFile? machine.step)
  else return machine

/-- Runs the program that the options ask for. -/
def execute (options : Options) : IO UInt32 := do
  match options.logPath? with
  | .error crash =>
    IO.eprintln crash.message
    return 1
  | .ok path? =>
    let logFile? ← path?.mapM openLog
    let level := options.consoleLevel
    let opening := options.opening path?
    emit level logFile? opening.toList
    match options.load #[] (← contentOf options.input) with
    | .error (.message text) =>
      IO.eprintln text
      return 1
    | .error (.crash crash) =>
      IO.eprintln crash.message
      return 1
    | .ok machine =>
      let stopped ← loop level logFile? (← settle level logFile? machine.begin)
      let finished ← settle level logFile? stopped.finish
      if let some cause := finished.escaped? then
        IO.eprintln cause.message
        return 1
      return (exitCode finished).toUInt32

/-- Runs a session with the given arguments. -/
def session (arguments : List String) : IO UInt32 := do
  match parse arguments with
  | .refuse message =>
    IO.eprint (refusalText message)
    return 2
  | .print text =>
    IO.print text
    return 0
  | .run options => execute options

end RegisterMachine.Main

/-- The program. -/
def main (arguments : List String) : IO UInt32 :=
  RegisterMachine.Main.session arguments
