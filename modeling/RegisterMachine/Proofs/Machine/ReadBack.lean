import RegisterMachine.Proofs.Machine.Run
import RegisterMachine.Proofs.Operand.Printed
import RegisterMachine.Proofs.Program.Linking

set_option autoImplicit false
set_option relaxedAutoImplicit false

/-!
# Printed integers in programs

A program that moves a number to a register and prints the register prints the text of the number.
An integer of 64 bits is printed as a text that denotes it again, so that the text printed is the
text in the program.

## Main definitions

* `RegisterMachine.Program.Shows` — instructions that move a literal to a register and print it.

## Main results

* `RegisterMachine.Store.exists_write_general` — a general register gives back what is written to
  it.
* `RegisterMachine.Program.exists_shows` — the program of such instructions, from its text.
* `RegisterMachine.Machine.exists_iterate_step_of_shows` — such a program prints the literal.
* `RegisterMachine.Machine.integers_are_read_back` — integers print and read back.
-/

namespace RegisterMachine

/-- A general register gives back what is written to it. -/
lemma Store.exists_write_general {store : Store} {text : String} {index : Nat} (value : Number)
    (h : RegisterName.find? store.registers.general.size (Text.lower text) =
      some (.general index)) :
    ∃ after, Store.write (.register text) value store = .ok () after ∧
      after.read (.register text) = .ok value := by
  have hlt : index < store.registers.general.size := by
    simpa [RegisterName.isWithin] using (Option.filter_eq_some_iff.1 h).2
  have hrun (store : Store) : Store.write (.register text) value store =
      writeWithin value store.hops (.register text) store := rfl
  refine ⟨{ store with registers := { store.registers with
    general := store.registers.general.setIfInBounds index value } }, ?_, ?_⟩
  · simp [hrun, writeWithin_register, writeRegister, Registers.write, h, Registers.set?, hlt]
  · simp [read, readWithin_register, Registers.read, h, Registers.get?, hlt]

/-- The first general register is one of every machine. -/
lemma RegisterName.find?_r0 {count : Nat} (h : 0 < count) :
    find? count "r0" = some (.general 0) := by
  have hname : (general 0).text = Text.lower "r0" := by decide +kernel
  exact find?_eq_some_iff.2 ⟨mem_all_iff.2 (by simpa [isWithin] using h), hname⟩

namespace Program

/-- Two instructions move a literal to the first register and print the register. -/
structure Shows (text : String) (value : Number) (first second : Instruction) : Prop where
  mov : first.mnemonic = "mov"
  mov_operands : first.operands = [.register "r0", .literal text value]
  out : second.mnemonic = "out"
  out_operands : second.operands = [.register "r0"]

variable {config : Config} {text : String} {value : Number}

/-- The first register is read from its name. -/
lemma ofText_r0 (config : Config) :
    Operand.ofText config.registerCount "r0" = .ok (.register "r0") := by
  have hbracket : Operand.bracketed? "r0".toList = none := by decide
  rw [Operand.ofText, Operand.ofChars_of_not_bracketed hbracket, String.ofList_toList,
    Operand.ofPlainText, RegisterName.find?_r0 config.registerCount_pos]
  rfl

/-- A line that moves a literal to the first register. -/
lemma line_mov (htext : Line.IsOperandText text) :
    let line := ("mov r0, " ++ text).toList
    Line.isInstruction line ∧ Line.firstWord line = "mov".toList ∧
      Line.operandTexts line = ["r0", text] := by
  intro line
  have hline : line = "mov".toList ++ ' ' :: ("r0,".toList ++ ' ' :: text.toList) := by
    simp [line]
  have hcomment : ∀ c ∈ "r0,".toList ++ ' ' :: text.toList, c ≠ ';' := by
    simpa using htext.isToken.no_comment
  have hkept : text.toList.filter (!Text.isBlank ·) = text.toList :=
    List.filter_eq_self.2 fun c hc => by simp [htext.isToken.not_isBlank c hc]
  have hfilter : ("r0,".toList ++ ' ' :: text.toList).filter (!Text.isBlank ·) =
      "r0".toList ++ ',' :: text.toList := by
    rw [List.filter_append, List.filter_cons_of_neg (by decide), hkept]
    rfl
  have hfields : Text.fields (· = ',') ("r0".toList ++ ',' :: text.toList) =
      ["r0".toList, text.toList] := by
    rw [Text.fields_append_cons _ _ (by decide), Text.fields_eq_singleton htext.isToken.ne_nil
      fun c hc => by simpa using htext.no_comma c hc]
    rfl
  obtain ⟨hinstruction, hword, htexts⟩ := Line.of_append_blank
    (by decide : Line.IsToken "mov".toList) (by decide) hcomment
  rw [hline]
  refine ⟨hinstruction, hword, ?_⟩
  rw [htexts, hfilter, hfields]
  simp

/-- The two lines of such a source. -/
lemma lines_shown (htext : Line.IsOperandText text) :
    Text.lines ("mov r0, " ++ text ++ "\nout r0").toList =
      [("mov r0, " ++ text).toList, "out r0".toList] := by
  have hjoined : ("mov r0, " ++ text ++ "\nout r0").toList =
      ['\n'].intercalate [("mov r0, " ++ text).toList, "out r0".toList] := by
    simp
  have hfront : "mov r0, ".toList.all fun c => Text.isLineBreak c = false := by decide
  have hmov : ∀ c ∈ ("mov r0, " ++ text).toList, Text.isLineBreak c = false := by
    intro c hc
    rw [String.toList_append, List.mem_append] at hc
    rcases hc with hc | hc
    · simpa using List.all_eq_true.1 hfront c hc
    · exact Text.isLineBreak_of_isBlank_eq_false (htext.isToken.not_isBlank c hc)
  have hout : "out r0".toList.all fun c => Text.isLineBreak c = false := by decide
  rw [hjoined, Text.lines_intercalate]
  refine List.forall_mem_cons.2 ⟨⟨by simp, hmov⟩, List.forall_mem_singleton.2 ⟨by decide, ?_⟩⟩
  simpa using hout

/-- **The program that moves a literal to the first register and prints the register.** -/
lemma exists_shows (htext : Line.IsOperandText text)
    (hread : Operand.ofText config.registerCount text = .ok (.literal text value)) :
    ∃ first second, Shows text value first second ∧
      link config ("mov r0, " ++ text ++ "\nout r0") =
        .ok { instructions := #[first, second] } := by
  obtain ⟨hmov, hmovWord, hmovTexts⟩ := line_mov htext
  have hout : Line.isInstruction "out r0".toList ∧ Line.firstWord "out r0".toList = "out".toList ∧
      Line.operandTexts "out r0".toList = ["r0"] := by decide +kernel
  obtain ⟨hout, houtWord, houtTexts⟩ := hout
  have hmovLower : Text.lower "mov" = "mov" := by decide +kernel
  have houtLower : Text.lower "out" = "out" := by decide +kernel
  have hnone : linkLines config.registerCount [] = .ok {} := rfl
  have hr0 := ofText_r0 config
  have hmovOperands : readOperands config.registerCount ["r0", text] =
      .ok [.register "r0", .literal text value] :=
    readOperands_eq_ok_iff.2 (.cons hr0 (.cons hread .nil))
  have houtOperands : readOperands config.registerCount ["r0"] = .ok [.register "r0"] :=
    readOperands_eq_ok_iff.2 (.cons hr0 .nil)
  have hfirst := linkLines_concat_of_isInstruction hnone hmov
    (by rw [hmovWord, String.ofList_toList, hmovLower]; decide) (by rwa [hmovTexts])
  have hsecond := linkLines_concat_of_isInstruction hfirst hout
    (by rw [houtWord, String.ofList_toList, houtLower]; decide) (by rwa [houtTexts])
  refine ⟨instructionOn 1 ("mov r0, " ++ text).toList [.register "r0", .literal text value],
    instructionOn 2 "out r0".toList [.register "r0"], ⟨?_, rfl, ?_, rfl⟩, ?_⟩
  · rw [instructionOn, hmovWord, String.ofList_toList]
    exact hmovLower
  · rw [instructionOn, houtWord, String.ofList_toList]
    exact houtLower
  · rw [link_eq_linkLines, lines_shown htext]
    exact hsecond

end Program

namespace Machine

variable {machine : Machine} {instruction : Instruction} {count : Nat}

/-- A step that moves a number. -/
lemma exists_log_step_of_mov {target source : Operand} {rest : List Operand} {value : Number}
    {store : Store} (hrunning : machine.isRunning) (hpc : 0 ≤ machine.pc)
    (hstore : machine.store.IsSound count)
    (hfetch : machine.program.fetch? (machine.pc + 1) = some instruction)
    (hmnemonic : instruction.mnemonic = "mov")
    (hoperands : instruction.operands = target :: source :: rest)
    (hread : machine.store.read source = .ok value)
    (hwrite : Store.write target value machine.store = .ok () store) :
    ∃ log, machine.step =
      { machine with pc := machine.pc + 1, store, steps := machine.steps + 1, log } := by
  have hopcode : Opcode.ofMnemonic? instruction.mnemonic = some .mov := by
    rw [hmnemonic]
    decide +kernel
  exact exists_log_step_of_execute hrunning (Program.le_size_of_fetch? (by omega) hfetch) hfetch
    hstore fun log => execute_of_effect hopcode (by rw [hoperands]; exact .mov hread hwrite)

/-- A step that prints numbers. -/
lemma exists_log_step_of_out {texts : List String} (hrunning : machine.isRunning)
    (hpc : 0 ≤ machine.pc) (hstore : machine.store.IsSound count)
    (hfetch : machine.program.fetch? (machine.pc + 1) = some instruction)
    (hmnemonic : instruction.mnemonic = "out")
    (hread : instruction.operands.mapM (printed .unbounded machine.store) = .ok texts) :
    ∃ log, machine.step =
      { machine with
        pc := machine.pc + 1
        host := machine.host.write ("\t".intercalate texts)
        steps := machine.steps + 1
        log } := by
  have hopcode : Opcode.ofMnemonic? instruction.mnemonic = some .out := by
    rw [hmnemonic]
    decide +kernel
  exact exists_log_step_of_execute hrunning (Program.le_size_of_fetch? (by omega) hfetch) hfetch
    hstore fun log => execute_of_effect hopcode (.out hread)

/-- **A program that moves a literal to a register and prints the register** prints the literal, and
ends behind that. -/
lemma exists_iterate_step_of_shows {first second : Instruction} {text shown : String}
    {value : Number} (h : Program.Shows text value first second) (hvalue : value.InRange)
    (hshown : value.printed = .ok shown) (hrunning : machine.isRunning) (hpc : machine.pc = 0)
    (hprogram : machine.program = { instructions := #[first, second] })
    (hstore : machine.store.IsSound count) (hcount : 0 < count) :
    ∃ store log, step^[3] machine =
      { machine with
        pc := 3
        store
        host := machine.host.write shown
        state := .halted
        stopReason? := some .programEnd
        steps := machine.steps + 2
        log } := by
  have hr0 : RegisterName.find? machine.store.registers.general.size (Text.lower "r0") =
      some (.general 0) := by
    have hlower : Text.lower "r0" = "r0" := by decide +kernel
    rw [hlower, hstore.size_eq]
    exact RegisterName.find?_r0 hcount
  obtain ⟨store, hwrite, hread⟩ := Store.exists_write_general value hr0
  have hfirst : machine.program.fetch? (machine.pc + 1) = some first := by
    rw [hprogram, hpc]
    rfl
  have hnonneg : 0 ≤ machine.pc := Int.le_of_eq hpc.symm
  obtain ⟨log, hmoved⟩ := exists_log_step_of_mov hrunning hnonneg hstore hfirst h.mov
    h.mov_operands (Store.readWithin_literal ..) hwrite
  let moved : Machine :=
    { machine with pc := machine.pc + 1, store, steps := machine.steps + 1, log }
  have hsecond : moved.program.fetch? (moved.pc + 1) = some second := by
    change machine.program.fetch? (machine.pc + 1 + 1) = some second
    rw [hprogram, hpc]
    rfl
  have htexts : second.operands.mapM (printed .unbounded moved.store) = .ok [shown] := by
    have hread' : moved.store.read (.register "r0") = .ok value := hread
    simp [h.out_operands, printed, hread', hshown]
  have hmoved' : moved.isRunning := hrunning
  obtain ⟨log', hprinted⟩ := exists_log_step_of_out hmoved'
    (Int.add_nonneg hnonneg (by decide)) (hstore.write hvalue hwrite) hsecond h.out htexts
  have hended : moved.step.step = (moved.step.fetched moved.step.log).stop .halted .programEnd := by
    refine step_eq_stop (by rw [hprinted]; exact hrunning) ?_
    rw [hprinted]
    change (machine.program.size : Int) < machine.pc + 1 + 1 + 1
    rw [hprogram, hpc]
    exact Int.lt_succ 2
  refine ⟨store, log', ?_⟩
  have hrun : step^[3] machine = machine.step.step.step := rfl
  have hstep : machine.step = moved := hmoved
  rw [hrun, hstep, hended, hprinted]
  simp [moved, fetched, stop, hpc]

/-- **Integers print and read back.** An integer of 64 bits is printed as a text that denotes it
again, as an operand of any machine. The program that moves that text to a register and prints the
register prints the text, once, and ends.

**Proof sketch.** The text is a sign that may be left out and ASCII digits, few enough for every
limit, and the sign is looked at before the range (`Literal.read_toString`). No bracket and no
letter stands in it, so that it is no other kind of operand (`Operand.ofText_toString`). -/
theorem integers_are_read_back {n : Int} (hlower : -0x8000000000000000 ≤ n)
    (hupper : n ≤ 0x7FFFFFFFFFFFFFFF) :
    ∃ text, (Number.int n).printed = .ok text ∧
      (∀ count, Operand.ofText count text = .ok (.literal text (.int n))) ∧
      ∀ (config : Config) (host : Host), ∃ program,
        Program.link config ("mov r0, " ++ text ++ "\nout r0") = .ok program ∧
        ∀ fuel, 3 ≤ fuel →
          let final := run fuel (fresh config host program)
          final.host = host.write text ∧ final.state = .halted ∧
            final.stopReason? = some .programEnd ∧ final.fault? = none ∧ final.escaped? = none := by
  have hword := Literal.inWordRange_iff.2 ⟨hlower, hupper⟩
  have hvalue : (Number.int n).InRange := (Number.IsWord.int ⟨hlower, hupper⟩).inRange
  have hprinted : (Number.int n).printed = .ok (toString n) := by
    cases hvalue with
    | int h => exact Number.decimalText_of_le h
  refine ⟨toString n, hprinted, Operand.ofText_toString hword, fun config host => ?_⟩
  obtain ⟨first, second, hshows, hlink⟩ := Program.exists_shows
    (Line.isOperandText_toString n) (Operand.ofText_toString hword config.registerCount)
  refine ⟨_, hlink, fun fuel hfuel => ?_⟩
  let start := (fresh config host { instructions := #[first, second] }).begin
  have hstart : start.isRunning := rfl
  obtain ⟨store, log, hended⟩ := exists_iterate_step_of_shows hshows hvalue hprinted hstart rfl rfl
    (Store.IsSound.fresh _ _ _) config.registerCount_pos
  have hstopped : (step^[3] start).isRunning = false := by
    rw [hended]
    rfl
  have hrun : runFor fuel start = step^[3] start := runFor_eq_of_not_isRunning hstopped hfuel
  intro final
  have hfinal : final = (step^[3] start).finish := congrArg finish hrun
  rw [hfinal, hended]
  exact ⟨rfl, rfl, rfl, rfl, rfl⟩

/-- The least integer, whose digits alone denote a double. -/
theorem integers_are_read_back_of_least :
    ∃ program, (Number.int (-0x8000000000000000)).printed = .ok "-9223372036854775808" ∧
      Program.link .default "mov r0, -9223372036854775808\nout r0" = .ok program ∧
      (run 3 (fresh .default .freshCapture program)).host =
        .capture { output := #["-9223372036854775808"] } := by
  have hprinted : (Number.int (-0x8000000000000000)).printed = .ok "-9223372036854775808" := by
    decide +kernel
  obtain ⟨text, htext, -, hprograms⟩ :=
    integers_are_read_back (by decide : -0x8000000000000000 ≤ (-0x8000000000000000 : Int))
      (by decide)
  obtain rfl : "-9223372036854775808" = text := Except.ok.inj (hprinted.symm.trans htext)
  obtain ⟨program, hlink, hrun⟩ := hprograms .default .freshCapture
  exact ⟨program, hprinted, hlink, (hrun 3 (Nat.le_refl 3)).1⟩

end Machine

end RegisterMachine
