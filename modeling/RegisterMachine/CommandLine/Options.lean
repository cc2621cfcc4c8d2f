import RegisterMachine.CommandLine.IntegerArgument

set_option autoImplicit false
set_option relaxedAutoImplicit false

/-!
# Command-line options

The arguments of the program are read in two passes. The first one tells options from other words;
the second one takes the options in order, some with the word behind them as a value, and the
first other word as the input file.

## Main definitions

* `RegisterMachine.CommandLine.Switch` — the options.
* `RegisterMachine.CommandLine.Word` — an argument, classified.
* `RegisterMachine.CommandLine.Options` — what the arguments ask for.
* `RegisterMachine.CommandLine.Request` — the outcome of reading the arguments.
* `RegisterMachine.CommandLine.parse` — reads the arguments.

## References

* [Spec] The expanded specification of the machine. (§6.3, "CLI".)
-/

namespace RegisterMachine.CommandLine

open Text

/-- An option. -/
inductive Switch
  | help | trace | verbose | memorySize | logFile | version
  deriving DecidableEq, Repr

namespace Switch

/-- All spellings of options, in the order in which they are listed. -/
def spellings : List (String × Switch) :=
  [("-h", .help), ("--help", .help), ("--trace", .trace), ("--verbose", .verbose),
   ("-v", .verbose), ("--memory-size", .memorySize), ("--log-file", .logFile),
   ("--version", .version)]

/-- The spellings of an option, as messages name it. -/
def title (switch : Switch) : String :=
  "/".intercalate ((spellings.filter (·.2 = switch)).map (·.1))

/-- Whether an option has a value. -/
def takesValue : Switch → Bool
  | .memorySize | .logFile => true
  | _ => false

/-- The option with a spelling. -/
def ofSpelling? (spelling : List Char) : Option Switch :=
  spellings.lookup (String.ofList spelling)

end Switch

/-- An argument, classified. -/
inductive Word
  /-- No option. -/
  | plain (text : String)
  /-- The mark behind which nothing is an option. -/
  | divider
  /-- An option that does not exist. -/
  | unknown (text : String)
  /-- An option, whether it is spelled with one dash, and what is attached to it. -/
  | switch (switch : Switch) (short : Bool) (attached : Option (List Char))
  deriving DecidableEq, Repr

/-! ## Telling options from other words -/

/-- A word up to its first equals sign, and what follows the sign. -/
def splitEquals (cs : List Char) : List Char × Option (List Char) :=
  match cs.dropWhile (· ≠ '=') with
  | [] => (cs, none)
  | _ :: value => (cs.takeWhile (· ≠ '='), some value)

/-- Whether a word looks like a negative number: digits, or digits around a point with one behind
it at least. -/
def isNegativeNumber (cs : List Char) : Bool :=
  match Literal.beforeFinalBreak cs with
  | '-' :: body =>
    let rest := body.dropWhile isDigit
    match rest with
    | [] => !body.isEmpty
    | '.' :: fraction => !fraction.isEmpty && fraction.all isDigit
    | _ => false
  | _ => false

/-- A word with a dash that is no option: a negative number, or text with a blank in it, is taken
as it is. -/
def notAnOption (cs : List Char) : Word :=
  let text := String.ofList cs
  if isNegativeNumber cs || cs.contains ' ' then .plain text else .unknown text

/-- The option that a word with two dashes abbreviates; several are refused. -/
def classifyLong (cs : List Char) : Except String Word :=
  let (stem, value?) := splitEquals cs
  match Switch.spellings.filter fun (spelling, _) => stem.isPrefixOf spelling.toList with
  | [] => .ok (notAnOption cs)
  | [(_, switch)] => .ok (.switch switch false value?)
  | several =>
    .error ("ambiguous option: " ++ String.ofList cs ++ " could match "
      ++ ", ".intercalate (several.map (·.1)))

/-- The option that a word with one dash starts with. -/
def classifyShort (cs : List Char) : Word :=
  match Switch.ofSpelling? (cs.take 2) with
  | some switch => .switch switch true (some (cs.drop 2))
  | none => notAnOption cs

/-- Whether a spelling has one dash only. -/
def isShort (spelling : List Char) : Bool :=
  (spelling.drop 1).head? ≠ some '-'

/-- What a word in front of the divider is. -/
def classify (text : String) : Except String Word :=
  let cs := text.toList
  if cs.head? ≠ some '-' || cs.length = 1 then .ok (.plain text)
  else match Switch.ofSpelling? cs with
    | some switch => .ok (.switch switch (isShort cs) none)
    | none =>
      match splitEquals cs with
      | (stem, some value) =>
        match Switch.ofSpelling? stem with
        | some switch => .ok (.switch switch (isShort stem) (some value))
        | none => if isShort cs then .ok (classifyShort cs) else classifyLong cs
      | (_, none) => if isShort cs then .ok (classifyShort cs) else classifyLong cs

/-- All arguments, classified; behind the divider there are no options. -/
def classifyAll : List String → Except String (List Word)
  | [] => .ok []
  | text :: rest =>
    if text = "--" then .ok (.divider :: rest.map .plain)
    else do return (← classify text) :: (← classifyAll rest)

/-! ## Taking the words in order -/

/-- What the arguments say about an option with a value: nothing, a value, or only the divider in
the place of a value. -/
inductive Setting (α : Type)
  | absent
  | given (value : α)
  | blank
  deriving DecidableEq, Repr

/-- What the arguments ask for. -/
structure Options where
  input : String
  trace : Bool := false
  verbose : Bool := false
  memorySize : Setting Int := .absent
  logFile : Setting String := .absent
  deriving DecidableEq, Repr

/-- The outcome of reading the arguments. -/
inductive Request
  /-- Run a program. -/
  | run (options : Options)
  /-- Print a text and do nothing else. -/
  | print (text : String)
  /-- Refuse the arguments. -/
  | refuse (message : String)
  deriving DecidableEq, Repr

/-- The words taken so far: the options, the input file if it has been met, whether it was the last
word, the option that awaits a value, and the words for which there was no use. -/
structure Progress where
  options : Options := { input := "" }
  input : Option String := none
  atInput : Bool := false
  awaiting : Option Switch := none
  unused : List String := []
  deriving DecidableEq, Repr

/-- The synopsis of the command line. -/
def usage : String :=
  "usage: asmvm [-h] [--trace] [--verbose] [--memory-size MEMORY_SIZE]\n" ++
  "             [--log-file LOG_FILE] [--version]\n" ++
  "             input\n"

/-- The description of the command line. -/
def help : String :=
  usage ++
  "\n" ++
  "Run a program on the asm register VM\n" ++
  "\n" ++
  "positional arguments:\n" ++
  "  input                 Assembly source file\n" ++
  "\n" ++
  "options:\n" ++
  "  -h, --help            show this help message and exit\n" ++
  "  --trace               Log every executed instruction with register state\n" ++
  "  --verbose, -v         Log load/run progress to stderr\n" ++
  "  --memory-size MEMORY_SIZE\n" ++
  "                        Memory cells (default: 512)\n" ++
  "  --log-file LOG_FILE   Also write a DEBUG log to this file\n" ++
  "  --version             show program's version number and exit\n"

/-- The name and the version of the program. -/
def versionText : String := "asmvm 0.1.0\n"

/-- The refusal of an option. -/
def refuseSwitch (switch : Switch) (message : String) : Request :=
  .refuse ("argument " ++ switch.title ++ ": " ++ message)

/-- The refusal of an option that lacks its value. -/
def refuseLacking (switch : Switch) : Request :=
  refuseSwitch switch "expected one argument"

/-- The refusal of a value attached to an option that has none. -/
def refuseAttached (switch : Switch) (value : List Char) : Request :=
  refuseSwitch switch ("ignored explicit argument " ++ quoted (String.ofList value))

/-- The effect of an option without a value. -/
def applySwitch (progress : Progress) : Switch → Except Request Progress
  | .help => .error (.print help)
  | .version => .error (.print versionText)
  | .trace => .ok { progress with options := { progress.options with trace := true } }
  | .verbose => .ok { progress with options := { progress.options with verbose := true } }
  | switch => .error (refuseLacking switch)

/-- What a value says. -/
def settingOf (value : String) : Setting String :=
  if value = "--" then .blank else .given value

/-- The effect of an option with a value. -/
def applyValue (progress : Progress) (switch : Switch) (value : String) :
    Except Request Progress :=
  let options := progress.options
  match switch, settingOf value with
  | .memorySize, .given text =>
    match readInteger text with
    | .ok n => .ok { progress with options := { options with memorySize := .given n } }
    | .error _ =>
      .error (refuseSwitch switch ("invalid parse_int_arg value: " ++ quoted text))
  | .memorySize, _ => .ok { progress with options := { options with memorySize := .blank } }
  | .logFile, path => .ok { progress with options := { options with logFile := path } }
  | _, _ => .error (refuseAttached switch value.toList)

/-- The options in a word that joins several one-letter options. The first option is known, and
the rest of the word is attached to it; a letter that is no option refuses all that is attached. -/
def unjoin (switch : Switch) : List Char → Except Request (List Switch)
  | [] => .error (refuseAttached switch [])
  | c :: rest =>
    match Switch.ofSpelling? ['-', c], rest with
    | none, _ => .error (refuseAttached switch (c :: rest))
    | some next, [] => .ok [switch, next]
    | some next, rest => (unjoin next rest).map (switch :: ·)

/-- The effect of an option with something attached to it. -/
def applyAttached (progress : Progress) (switch : Switch) (short : Bool) (attached : List Char) :
    Except Request Progress :=
  if switch.takesValue then applyValue progress switch (String.ofList attached)
  else if short then do (← unjoin switch attached).foldlM applySwitch progress
  else .error (refuseAttached switch attached)

/-- The words taken so far with one more for which there is no use. -/
def Progress.addUnused (progress : Progress) (text : String) : Progress :=
  { progress with unused := progress.unused ++ [text] }

/-- Takes a word that is not the value of an option. The divider belongs to the input file if it
stands right in front of it or right behind it. -/
def takeFreeWord (progress : Progress) : Word → Except Request Progress
  | .plain text =>
    if progress.input.isSome then .ok (progress.addUnused text)
    else .ok { progress with input := some text, atInput := true }
  | .divider =>
    if progress.input.isNone || progress.atInput then .ok progress
    else .ok (progress.addUnused "--")
  | .unknown text => .ok (progress.addUnused text)
  | .switch switch short (some attached) => applyAttached progress switch short attached
  | .switch switch _ none =>
    if switch.takesValue then .ok { progress with awaiting := some switch }
    else applySwitch progress switch

/-- Takes the next word: the value of the option in front of it, if that awaits one. -/
def takeWord (progress : Progress) (word : Word) : Except Request Progress :=
  match progress.awaiting, word with
  | some switch, .plain value => applyValue { progress with awaiting := none } switch value
  | some switch, _ => .error (refuseLacking switch)
  | none, .divider => (takeFreeWord progress .divider).map ({ · with atInput := false })
  | none, word => takeFreeWord { progress with atInput := false } word

/-- What the words ask for, after all of them have been taken. -/
def Progress.request (progress : Progress) : Request :=
  match progress.awaiting, progress.input with
  | some switch, _ => refuseLacking switch
  | none, none => .refuse "the following arguments are required: input"
  | none, some input =>
    if progress.unused.isEmpty then .run { progress.options with input }
    else .refuse ("unrecognized arguments: " ++ " ".intercalate progress.unused)

/-- Reads the arguments of the program. [Spec, §6.3] -/
def parse (arguments : List String) : Request :=
  match classifyAll arguments with
  | .error message => .refuse message
  | .ok words =>
    match words.foldlM takeWord {} with
    | .ok progress => progress.request
    | .error request => request

end RegisterMachine.CommandLine
