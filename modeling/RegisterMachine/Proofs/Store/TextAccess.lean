import RegisterMachine.Store
import RegisterMachine.Proofs.Operand.Classification

set_option autoImplicit false
set_option relaxedAutoImplicit false

/-!
# Access by text

An operand is classified once, when it is read. Here the classification is left until the operand
is used: its text is tried, each time anew, as something in brackets, a register, an alias and a
number, in this order. Both ways agree as long as no alias takes a name that means something else.

## Main definitions

* `RegisterMachine.Store.readText`, `RegisterMachine.Store.writeText` — access by text.
* `RegisterMachine.AliasTable.IsReading` — every name of an alias table is a symbol, and every
  target the operand that its own text denotes.

## Main results

* `RegisterMachine.AliasTable.IsReading.define` — a definition that was read from a text keeps an
  alias table so.
* `RegisterMachine.Store.read_eq_readText`, `RegisterMachine.Store.write_eq_writeText` — access by
  operand is access by text.
-/

namespace RegisterMachine

namespace Store

/-! ## Reading and writing by text -/

/-- The number that a text without brackets denotes, where `follow` reads the target of an alias: a
register before an alias, and an alias before a number. -/
def readPlainText (store : Store) (follow : String → String → Except Cause Number)
    (text : String) : Except Cause Number :=
  if (RegisterName.find? store.registers.general.size text).isSome then store.registers.read text
  else match store.aliases.lookup text with
    | some target => follow text target.text
    | none =>
      match Literal.read text with
      | .ok (some value) => .ok value
      | _ => .error (.invalidValue text)

/-- The number that characters denote, where `follow` reads the target of an alias. -/
def readCharsVia (store : Store) (follow : String → String → Except Cause Number)
    (cs : List Char) : Except Cause Number :=
  match _h : Operand.bracketed? cs with
  | some inner => do store.memory.read (.number (← store.readCharsVia follow inner))
  | none => store.readPlainText follow (String.ofList cs)
termination_by cs.length
decreasing_by exact Operand.length_bracketed?_lt _h

/-- The number that a text denotes, with so many hops left. -/
def readTextWithin (store : Store) : Nat → String → Except Cause Number
  | 0, text =>
    store.readCharsVia (fun name _ => .error (.aliasTooDeep name store.aliasLimit)) text.toList
  | hops + 1, text =>
    store.readCharsVia (fun _ target => store.readTextWithin hops target) text.toList

/-- The number that a text denotes. -/
def readText (store : Store) (text : String) : Except Cause Number :=
  store.readTextWithin store.hops text

/-- Writes to what a text denotes, with so many hops left for an address, where `follow` writes to
the target of an alias. -/
def writeTextVia (value : Number) (hops : Nat) (follow : String → String → Action Store Unit)
    (text : String) : Action Store Unit :=
  match Operand.bracketed? text.toList with
  | some inner => do
    let address ← Action.query (·.readTextWithin hops (String.ofList inner))
    writeCell address value
  | none => do
    let store ← get
    if (RegisterName.find? store.registers.general.size text).isSome then writeRegister text value
    else match store.aliases.lookup text with
      | some target => follow text target.text
      | none => throw (.invalidTarget text)

/-- Writes to what a text denotes, with so many hops left. -/
def writeTextWithin (value : Number) : Nat → String → Action Store Unit
  | 0 => writeTextVia value 0 fun name _ => do throw (.aliasTooDeep name (← get).aliasLimit)
  | hops + 1 => writeTextVia value (hops + 1) fun _ target => writeTextWithin value hops target

/-- Writes to what a text denotes. -/
def writeText (text : String) (value : Number) : Action Store Unit := do
  writeTextWithin value (← get).hops text

end Store

/-! ## Alias tables -/

namespace AliasTable

variable {count : Nat} {aliases : AliasTable} {name : String} {target : Operand}

/-- Every name of the table is a symbol, so that it is in no brackets and is no register and no
number, and every target is the operand that its own text denotes. -/
def IsReading (count : Nat) (aliases : AliasTable) : Prop :=
  ∀ entry ∈ aliases.entries,
    (Operand.symbol entry.1).IsReading count ∧ entry.2.IsReading count

/-- The empty table has no names. -/
lemma isReading_empty : empty.IsReading count := by
  intro entry hentry
  cases hentry

/-- A definition is looked up from the table's entries. -/
lemma mem_of_lookup (h : aliases.lookup name = some target) : (name, target) ∈ aliases.entries := by
  obtain ⟨front, back, heq, -⟩ := List.lookup_eq_some_iff.1 h
  simp [heq]

/-- The entries after a definition are the defined one and entries from before. -/
lemma mem_defineIn {entry : String × Operand} {entries : List (String × Operand)}
    (h : entry ∈ defineIn name target entries) : entry = (name, target) ∨ entry ∈ entries := by
  induction entries with
  | nil => simpa [defineIn] using h
  | cons first rest ih =>
    by_cases hname : first.1 = name
    · have hmem : entry = (name, target) ∨ entry ∈ rest := by simpa [defineIn, hname] using h
      exact hmem.imp_right (List.mem_cons_of_mem _)
    · have hmem : entry = first ∨ entry ∈ defineIn name target rest := by
        simpa [defineIn, hname] using h
      rcases hmem with rfl | hrest
      · exact .inr List.mem_cons_self
      · exact (ih hrest).imp_right (List.mem_cons_of_mem _)

/-- A definition of a symbol, with name and target read from texts, keeps the table so. -/
lemma IsReading.define (h : aliases.IsReading count) (hname : (Operand.symbol name).IsReading count)
    (htarget : target.IsReading count) : (aliases.define name target).IsReading count := by
  intro entry hentry
  rcases mem_defineIn hentry with rfl | hold
  · exact ⟨hname, htarget⟩
  · exact h entry hold

/-- A text that denotes a number is no name of the table. -/
lemma IsReading.lookup_of_literal (h : aliases.IsReading count) {value : Number}
    (hread : Literal.read name = .ok (some value)) : aliases.lookup name = none := by
  cases hlookup : aliases.lookup name with
  | none => rfl
  | some target =>
    obtain ⟨-, -, hnone⟩ := Operand.isReading_symbol_iff.1 (h _ (mem_of_lookup hlookup)).1
    simp [hread] at hnone

end AliasTable

/-! ## Access by operand is access by text -/

namespace Store

variable {store : Store} {operand : Operand} {text : String}

/-- Characters in brackets are read as an address. -/
lemma readCharsVia_of_bracketed {follow : String → String → Except Cause Number}
    {cs inner : List Char} (h : Operand.bracketed? cs = some inner) :
    store.readCharsVia follow cs =
      (do store.memory.read (.number (← store.readCharsVia follow inner))) := by
  rw [readCharsVia]
  split <;> simp_all

/-- Characters without brackets are read as a plain text. -/
lemma readCharsVia_of_not_bracketed {follow : String → String → Except Cause Number}
    (h : Operand.bracketed? text.toList = none) :
    store.readCharsVia follow text.toList = store.readPlainText follow text := by
  rw [readCharsVia]
  split <;> simp_all

/-- Reading an operand is reading its text, if targets of aliases are followed alike.

**Proof sketch.** Induction on the operand: its kind tells by which of the tries its text is taken,
and no earlier try takes it. For a literal this needs that no alias goes by a number. -/
lemma readVia_eq_readCharsVia (htable : store.aliases.IsReading store.registers.general.size)
    {follow : Stack → String → Operand → Except Cause Number}
    {followText : String → String → Except Cause Number}
    (hfollow : ∀ name target, store.aliases.lookup name = some target →
      follow .unbounded name target = followText name target.text)
    (h : operand.IsReading store.registers.general.size) :
    store.readVia follow .unbounded operand =
      store.readCharsVia followText operand.text.toList := by
  induction operand with
  | indirect text inner ih =>
    obtain ⟨hbracket, hinner⟩ := Operand.isReading_indirect_iff.1 h
    unfold readVia
    simp only [Stack.enter?, ih hinner]
    exact (readCharsVia_of_bracketed hbracket).symm
  | register text =>
    obtain ⟨hbracket, hname⟩ := Operand.isReading_register_iff.1 h
    unfold readVia
    simp [Stack.enter?, Operand.text, readCharsVia_of_not_bracketed hbracket, readPlainText, hname,
      Registers.read_lower hname]
  | literal text value =>
    obtain ⟨hbracket, hname, hread⟩ := Operand.isReading_literal_iff.1 h
    -- an alias is tried before a number, but none goes by a number
    have halias := htable.lookup_of_literal hread
    unfold readVia
    simp [Stack.enter?, Operand.text, readCharsVia_of_not_bracketed hbracket, readPlainText, hname,
      halias, hread]
  | symbol name =>
    obtain ⟨hbracket, hname, hread⟩ := Operand.isReading_symbol_iff.1 h
    cases hlookup : store.aliases.lookup name with
    | some target =>
      unfold readVia
      simp [Stack.enter?, Operand.text, readCharsVia_of_not_bracketed hbracket, readPlainText,
        hname, hlookup, hfollow name target hlookup]
    | none =>
      unfold readVia
      simp [Stack.enter?, Operand.text, readCharsVia_of_not_bracketed hbracket, readPlainText,
        hname, hlookup, hread]

/-- Reading an operand is reading its text, whatever hops are left. -/
lemma readWithin_eq_readTextWithin
    (htable : store.aliases.IsReading store.registers.general.size)
    (h : operand.IsReading store.registers.general.size) (hops : Nat) :
    store.readWithin hops operand = store.readTextWithin hops operand.text := by
  induction hops generalizing operand with
  | zero => exact readVia_eq_readCharsVia htable (fun _ _ _ => rfl) h
  | succ hops ih =>
    refine readVia_eq_readCharsVia htable (fun name target hlookup => ?_) h
    exact ih (htable _ (AliasTable.mem_of_lookup hlookup)).2

/-- **Reading an operand is reading its text.** -/
lemma read_eq_readText (htable : store.aliases.IsReading store.registers.general.size)
    (h : operand.IsReading store.registers.general.size) :
    store.read operand = store.readText operand.text :=
  readWithin_eq_readTextWithin htable h store.hops

/-- Writing to an operand is writing to its text, if targets of aliases are followed alike. -/
lemma writeVia_eq_writeTextVia (htable : store.aliases.IsReading store.registers.general.size)
    (value : Number) (hops : Nat) {follow : Stack → String → Operand → Action Store Unit}
    {followText : String → String → Action Store Unit}
    (hfollow : ∀ name target, store.aliases.lookup name = some target →
      follow .unbounded name target store = followText name target.text store)
    (h : operand.IsReading store.registers.general.size) :
    writeVia value hops follow .unbounded operand store =
      writeTextVia value hops followText operand.text store := by
  cases operand with
  | indirect text inner =>
    obtain ⟨hbracket, hinner⟩ := Operand.isReading_indirect_iff.1 h
    have haddress : store.readOnWithin .unbounded hops inner = _ :=
      readWithin_eq_readTextWithin htable hinner hops
    simp [writeVia, Stack.enter?, writeTextVia, Operand.text, hbracket, bind, EStateM.bind,
      Action.query, haddress]
  | register text =>
    obtain ⟨hbracket, hname⟩ := Operand.isReading_register_iff.1 h
    simp [writeVia, Stack.enter?, writeTextVia, Operand.text, hbracket, hname, writeRegister,
      Action.update, Registers.write_lower hname]
  | literal text number =>
    obtain ⟨hbracket, hname, hread⟩ := Operand.isReading_literal_iff.1 h
    have halias := htable.lookup_of_literal hread
    simp [writeVia, Stack.enter?, writeTextVia, Operand.text, hbracket, hname, halias]
  | symbol name =>
    obtain ⟨hbracket, hname, -⟩ := Operand.isReading_symbol_iff.1 h
    cases hlookup : store.aliases.lookup name with
    | some target =>
      simp [writeVia, Stack.enter?, writeTextVia, Operand.text, hbracket, hname, hlookup,
        hfollow name target hlookup]
    | none => simp [writeVia, Stack.enter?, writeTextVia, Operand.text, hbracket, hname, hlookup]

/-- Writing to an operand is writing to its text, whatever hops are left. -/
lemma writeWithin_eq_writeTextWithin
    (htable : store.aliases.IsReading store.registers.general.size)
    (h : operand.IsReading store.registers.general.size) (value : Number) (hops : Nat) :
    writeWithin value hops operand store = writeTextWithin value hops operand.text store := by
  induction hops generalizing operand with
  | zero =>
    rw [writeWithin, writeOnWithin]
    exact writeVia_eq_writeTextVia htable value 0 (fun _ _ _ => rfl) h
  | succ hops ih =>
    rw [writeWithin, writeOnWithin]
    refine writeVia_eq_writeTextVia htable value (hops + 1) (fun name target hlookup => ?_) h
    exact ih (htable _ (AliasTable.mem_of_lookup hlookup)).2

/-- **Writing to an operand is writing to its text.** -/
lemma write_eq_writeText (htable : store.aliases.IsReading store.registers.general.size)
    (h : operand.IsReading store.registers.general.size) (value : Number) :
    write operand value store = writeText operand.text value store :=
  writeWithin_eq_writeTextWithin htable h value store.hops

end Store

end RegisterMachine
