import RegisterMachine.EventQueue
import RegisterMachine.Fault

set_option autoImplicit false
set_option relaxedAutoImplicit false

/-!
# Hosts

A machine prints, pauses and exchanges events through its host. One kind of host records all of
it; the other writes a text stream and really pauses, for which pauses must not be too long.

## Main definitions

* `RegisterMachine.Capture`, `RegisterMachine.Console` — the two kinds of hosts.
* `RegisterMachine.Host` — a host of either kind, with its four operations.

## References

* [Spec] The expanded specification of the machine. (§6.2, "Host interface".)
-/

namespace RegisterMachine

/-- What was done with an event. -/
inductive EventAction
  | push | pull
  deriving DecidableEq, Repr

/-- A host that records everything. -/
structure Capture where
  output : Array String := #[]
  sleeps : Array Number := #[]
  events : Array (EventAction × String) := #[]
  queue : EventQueue := {}
  deriving DecidableEq, Repr

/-- The printed texts, one below the other. -/
def Capture.text (host : Capture) : String :=
  "\n".intercalate host.output.toList

/-- A host on a text stream: what has been written and the pauses that have been asked for. -/
structure Console where
  stream : String := ""
  pauses : Array Number := #[]
  queue : EventQueue := {}
  deriving DecidableEq, Repr

/-- A host. [Spec, §6.2] -/
inductive Host
  | capture (host : Capture)
  | console (host : Console)
  deriving DecidableEq, Repr

namespace Host

/-- A fresh host that records everything. -/
def freshCapture : Host := .capture {}

/-- A fresh host on a text stream. -/
def freshConsole : Host := .console {}

/-- The events not yet delivered. -/
def queue : Host → EventQueue
  | .capture host => host.queue
  | .console host => host.queue

/-- Prints a text; on a stream a line feed follows it. -/
def write (host : Host) (text : String) : Host :=
  match host with
  | .capture host => .capture { host with output := host.output.push text }
  | .console host => .console { host with stream := host.stream ++ text ++ "\n" }

/-- The longest pause in whole seconds: more nanoseconds do not fit into 64 bits. -/
def maxPause : Int := 9223372036

/-- Nanoseconds in a second, as a double. -/
def nanoseconds : Float := 1000000000.0

/-- The first number of nanoseconds that does not fit into 64 bits, as a double. -/
def nanosecondBound : Float := 9223372036854775808.0

/-- Why a positive number of seconds cannot be a pause, if it cannot. Nanoseconds beyond 64 bits are
too many; a double that meets the bound exactly still passes for 64 bits and wraps around. -/
def pauseError? (seconds : Number) : Option RangeError :=
  match seconds.scalar with
  | .int n => if maxPause < n then some .durationTooLong else none
  | .double x =>
    let count := x * nanoseconds
    if nanosecondBound < count then some .durationTooLong
    else if nanosecondBound ≤ count then some .durationWraps
    else none

/-- Pauses for some seconds, if they are a positive number. -/
def sleep (host : Host) (seconds : Number) : Except Cause Host :=
  match host with
  | .capture host => .ok (.capture { host with sleeps := host.sleeps.push seconds })
  | .console host =>
    if !seconds.isPositive then .ok (.console host)
    else match pauseError? seconds with
      | some e => .error (.outOfRange e)
      | none => .ok (.console { host with pauses := host.pauses.push seconds })

/-- Queues an event. -/
def push (host : Host) (name : String) : Host :=
  match host with
  | .capture host =>
    .capture { host with
      events := host.events.push (.push, name)
      queue := host.queue.push name }
  | .console host => .console { host with queue := host.queue.push name }

/-- Awaits an event; also tells what that did to the queue. -/
def pull (host : Host) (name : String) : Host × EventQueue.Pulled :=
  let pulled := host.queue.pull name
  match host with
  | .capture host =>
    let events := if pulled.delivered then host.events.push (.pull, name) else host.events
    (.capture { host with events, queue := pulled.rest }, pulled)
  | .console host => (.console { host with queue := pulled.rest }, pulled)

end Host

end RegisterMachine
