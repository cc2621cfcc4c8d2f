set_option autoImplicit false
set_option relaxedAutoImplicit false

/-!
# Configuration

The sizes of a machine, all of them positive, and whether it records a trace.

## Main definitions

* `RegisterMachine.Config` — a valid configuration.
* `RegisterMachine.Config.make` — a configuration from sizes that may be invalid.
* `RegisterMachine.Config.override` — a configuration with some fields changed.

## References

* [Spec] The expanded specification of the machine. (§8, "Ambient stack".)
-/

namespace RegisterMachine

/-- A size that is not positive: the name of its field, and the size. -/
structure ConfigError where
  field : String
  size : Int
  deriving DecidableEq, Repr

/-- The wording of the refusal of a size. -/
def ConfigError.message (e : ConfigError) : String :=
  e.field ++ " must be positive, got " ++ toString e.size

/-- The sizes of a machine, and whether it records a trace. [Spec, §8] -/
structure Config where
  memorySize : Nat := 512
  registerCount : Nat := 16
  aliasDepthLimit : Nat := 64
  trace : Bool := false
  memorySize_pos : 0 < memorySize := by decide
  registerCount_pos : 0 < registerCount := by decide
  aliasDepthLimit_pos : 0 < aliasDepthLimit := by decide
  deriving DecidableEq, Repr

namespace Config

/-- The reference machine. -/
def default : Config := {}

/-- A size as a positive number, or the error about its field. -/
def positive (field : String) (size : Int) : Except ConfigError { n : Nat // 0 < n } :=
  if h : 0 < size then .ok ⟨size.toNat, by omega⟩ else .error ⟨field, size⟩

/-- A configuration from sizes that may be invalid; the first invalid one is reported. -/
def make (memorySize registerCount aliasDepthLimit : Int) (trace : Bool) :
    Except ConfigError Config := do
  let memory ← positive "memory_size" memorySize
  let registers ← positive "register_count" registerCount
  let aliases ← positive "alias_depth_limit" aliasDepthLimit
  return {
    memorySize := memory.1
    registerCount := registers.1
    aliasDepthLimit := aliases.1
    trace
    memorySize_pos := memory.2
    registerCount_pos := registers.2
    aliasDepthLimit_pos := aliases.2 }

/-- New values for some fields of a configuration. -/
structure Changes where
  memorySize : Option Int := none
  registerCount : Option Int := none
  aliasDepthLimit : Option Int := none
  trace : Option Bool := none
  deriving DecidableEq, Repr

/-- A configuration with some fields changed. [Spec, §8] -/
def override (config : Config) (changes : Changes) : Except ConfigError Config :=
  make (changes.memorySize.getD config.memorySize)
    (changes.registerCount.getD config.registerCount)
    (changes.aliasDepthLimit.getD config.aliasDepthLimit)
    (changes.trace.getD config.trace)

end Config

end RegisterMachine
