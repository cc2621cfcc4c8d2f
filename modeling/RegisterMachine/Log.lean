import RegisterMachine.Text.Quoted

set_option autoImplicit false
set_option relaxedAutoImplicit false

/-!
# The log

What the machine and its tools report about their work. A record is kept as data; its level, its
channel and its wording follow from what it reports.

## Main definitions

* `RegisterMachine.Log.Level`, `RegisterMachine.Log.Channel` — how important a record is, and which
  part of the program it comes from.
* `RegisterMachine.Log.Record` — what is reported.
* `RegisterMachine.Log.Record.message` — the wording of a record.
* `RegisterMachine.Log.Record.line` — a record as a line of a log file.

## References

* [Spec] The expanded specification of the machine. (§8, "Ambient stack".)
-/

namespace RegisterMachine.Log

/-- How important a record is, the least important first. -/
inductive Level
  | debug | info | warning | error
  deriving DecidableEq, Repr

namespace Level

/-- The name of a level. -/
def name : Level → String
  | .debug => "DEBUG"
  | .info => "INFO"
  | .warning => "WARNING"
  | .error => "ERROR"

/-- The place of a level in the order of importance. -/
def rank : Level → Nat
  | .debug => 0
  | .info => 1
  | .warning => 2
  | .error => 3

/-- Whether records of a level are shown where `least` is the least level shown. -/
def passes (level least : Level) : Bool :=
  least.rank ≤ level.rank

end Level

/-- The part of the program that a record comes from. -/
inductive Channel
  | root | parser | engine | host
  deriving DecidableEq, Repr

/-- The name of a channel. -/
def Channel.name : Channel → String
  | .root => "asm_vm"
  | .parser => "asm_vm.parser"
  | .engine => "asm_vm.engine"
  | .host => "asm_vm.host"

/-- What is reported. -/
inductive Record
  /-- A log file has been opened. -/
  | logFile (path : String)
  /-- The least level shown on the console. -/
  | consoleLevel (level : Level)
  /-- A source text has been linked. -/
  | linked (instructions labels : Nat)
  /-- A file has been loaded. -/
  | loaded (file : String) (instructions labels : Nat)
  /-- A run begins. -/
  | running (instructions : Nat)
  /-- An instruction is about to be executed. -/
  | executing (index : Int) (line : Nat) (source registers : String)
  /-- An instruction has failed. -/
  | faulted (line : Nat) (message : String)
  /-- A run has ended. -/
  | stopped (reason : String) (steps : Nat)
  /-- An event was not the one awaited. -/
  | discarded (event awaited : String)
  deriving DecidableEq, Repr

/-- Text padded with blanks in front to a width. -/
def padLeft (width : Nat) (text : String) : String :=
  String.ofList (List.replicate (width - text.length) ' ') ++ text

/-- Text padded with blanks at its end to a width. -/
def padRight (width : Nat) (text : String) : String :=
  text ++ String.ofList (List.replicate (width - text.length) ' ')

/-- A count of instructions and labels. -/
def counts (instructions labels : Nat) : String :=
  toString instructions ++ " instructions, " ++ toString labels ++ " labels"

/-- What a line of a log file shows besides its record: the time, and the place in the program. -/
structure Stamp where
  time : String
  place : String
  deriving DecidableEq, Repr

namespace Record

/-- The level of a record. -/
def level : Record → Level
  | .logFile _ => .info
  | .consoleLevel _ => .debug
  | .linked _ _ => .debug
  | .loaded _ _ _ => .info
  | .running _ => .info
  | .executing _ _ _ _ => .debug
  | .faulted _ _ => .error
  | .stopped _ _ => .info
  | .discarded _ _ => .debug

/-- The channel of a record. -/
def channel : Record → Channel
  | .logFile _ => .root
  | .consoleLevel _ => .root
  | .linked _ _ => .parser
  | .loaded _ _ _ => .root
  | .running _ => .engine
  | .executing _ _ _ _ => .engine
  | .faulted _ _ => .engine
  | .stopped _ _ => .engine
  | .discarded _ _ => .host

/-- The wording of a record. -/
def message : Record → String
  | .logFile path => "Log file: " ++ path
  | .consoleLevel level => "Console level: " ++ level.name
  | .linked instructions labels => "Linked " ++ counts instructions labels
  | .loaded file instructions labels => "Loaded " ++ file ++ ": " ++ counts instructions labels
  | .running instructions => "Running " ++ toString instructions ++ " instructions"
  | .executing index line source registers =>
    padLeft 4 (toString index) ++ " L" ++ padRight 4 (toString line) ++ " " ++ padRight 24 source
      ++ " " ++ registers
  | .faulted line message => "Fault at line " ++ toString line ++ ": " ++ message
  | .stopped reason steps => "Stopped: " ++ reason ++ " after " ++ toString steps ++ " steps"
  | .discarded event awaited =>
    "Discarding event " ++ Text.quoted event ++ " while waiting for " ++ Text.quoted awaited

/-- A record as a line of a log file. [Spec, §8] -/
def line (record : Record) (stamp : Stamp) : String :=
  stamp.time ++ " | " ++ padRight 7 record.level.name ++ " | " ++ record.channel.name ++ " | "
    ++ stamp.place ++ " | " ++ record.message ++ "\n"

end Record

end RegisterMachine.Log
