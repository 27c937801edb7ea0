import GameBoy.Proofs.Interrupt.Deferral

/-!
# Enabling interrupts

`EI` and `DI` leave a change of `ime` waiting for the next instruction. Whatever the host does, the
change that waits is that of the instruction executed last, and the processor runs as long as one
waits. So interrupts that are refused become accepted in two ways only: by a `RETI`, or by the first
instruction after an `EI`. Between an `EI` and that instruction nothing is dispatched, for `ime` is
false and the host cannot set it; at most, steps fail at an opcode without a meaning.
-/

namespace GameBoy

/-! ## A change waits only while the processor runs -/

/-- If a change is waiting then the processor runs. -/
def Control.Prompt (k : Control) : Prop := k.pendingIme ≠ none → k.mode = .running

/-- Only an instruction can suspend the processor, and its start has made the waiting change. -/
lemma Instruction.prompt_control (i : Instruction) {k : Control} (running : k.mode = .running)
    (settled : k.pendingIme = none) : (i.control k).Prompt := by
  intro waiting
  cases i with
  | halt | stop => exact absurd settled waiting
  | _ => exact running

/-- No event suspends a processor with a change waiting. -/
lemma Event.prompt_control (e : Event) {k : Control} (h : k.Prompt) : (e.control k).Prompt := by
  cases e with
  | executed i cycles => exact i.prompt_control rfl rfl
  | dispatched i => exact fun _ => rfl
  | suspended => exact h
  | illegal x => exact fun _ => rfl

namespace Console

variable {c : Console}

/-- No move suspends a processor with a change waiting. -/
lemma prompt_move (c : Console) (m : Move) (h : c.control.Prompt) : (c.move m).control.Prompt := by
  cases m with
  | step =>
    rw [move, control_step]
    exact c.step.1.prompt_control h
  | host op => exact h
  | wake => exact fun _ => rfl

/-- The processor never waits for anything while a change is waiting. -/
lemma prompt_after (config : ConsoleConfig) (schedule : List Move) :
    ((powerOn config).after schedule).control.Prompt := by
  refine after_invariant (P := fun c => c.control.Prompt) (Q := fun _ => True)
    (fun c m _ h => c.prompt_move m h) schedule (fun _ _ => trivial) ?_
  exact fun _ => rfl

end Console

/-! ## The instruction that left the change -/

/-- `EI` and `DI` leave a change waiting, and no other instruction does. -/
lemma Instruction.change?_eq_some_iff {i : Instruction} {v : Bool} :
    i.change? = some v ↔ i = if v then .enableInterrupts else .disableInterrupts := by
  cases v <;> cases i <;> simp [change?]

/-- From power-on, the change that waits is that of the instruction executed last. -/
lemma Console.pendingIme_eq_some_iff (config : ConsoleConfig) (schedule : List Move) (v : Bool) :
    ((powerOn config).after schedule).control.pendingIme = some v ↔
      lastExecuted? ((powerOn config).events schedule) =
        some (if v then .enableInterrupts else .disableInterrupts) := by
  rw [pendingIme_after, control_powerOn]
  cases lastExecuted? ((powerOn config).events schedule) with
  | none => simp
  | some i => simp [Instruction.change?_eq_some_iff]

/-! ## Refused interrupts become accepted -/

/-- An event that lets interrupts in is a `RETI` or the execution of an instruction before which an
enabling change was waiting. -/
lemma Event.ime_control_iff {e : Event} {k : Control} (refused : k.ime = false) :
    (e.control k).ime = true ↔
      ∃ i cycles, e = .executed i cycles ∧ (i = .retInterrupt ∨ k.pendingIme = some true) := by
  cases e with
  | executed i cycles =>
    have started : { k with mode := .running }.start.ime = true ↔ k.pendingIme = some true := by
      unfold Control.start
      cases k.pendingIme <;> simp [refused]
    by_cases returns : i = .retInterrupt
    · subst returns
      simp [control, Instruction.control]
    · rw [control, Instruction.ime_control returns, started]
      simp [returns]
  | dispatched i => simp [control]
  | suspended => simp [control, refused]
  | illegal x => simp [control, refused]

namespace Console

variable {c : Console}

/-- A move that lets interrupts in is a step. -/
lemma ime_move_iff (m : Move) (refused : c.control.ime = false) :
    (c.move m).control.ime = true ↔
      m = .step ∧ ∃ i cycles, c.step.1 = .executed i cycles ∧
        (i = .retInterrupt ∨ c.control.pendingIme = some true) := by
  cases m with
  | step =>
    rw [move, control_step, Event.ime_control_iff refused]
    exact (and_iff_right rfl).symm
  | host op =>
    have kept : (c.move (.host op)).control.ime = false := refused
    simp [kept]
  | wake =>
    have kept : (c.move .wake).control.ime = false := refused
    simp [kept]

/-! ## From `EI` to the next instruction -/

/-- Interrupts are refused and about to be accepted, in a processor that runs. -/
def Opening (c : Console) : Prop := c.control = ⟨false, some true, .running⟩

/-- An `EI` that leaves interrupts refused is about to let them in. -/
lemma opening_of_enable {cycles : Nat} (enabled : c.step.1 = .executed .enableInterrupts cycles)
    (refused : c.step.2.control.ime = false) : c.step.2.Opening := by
  rw [control_step, enabled] at refused
  rw [Opening, control_step, enabled]
  exact congrArg (fun ime => (⟨ime, some true, .running⟩ : Control)) refused

/-- Failed steps and the host leave the change waiting. -/
lemma Opening.move (h : c.Opening) (m : Move) (failed : ∀ e ∈ c.event? m, ∃ x, e = .illegal x) :
    (c.move m).Opening := by
  cases m with
  | step =>
    obtain ⟨x, illegal⟩ := failed c.step.1 rfl
    rw [Opening, Console.move, control_step, illegal, h]
    rfl
  | host op => exact h
  | wake => exact congrArg (fun k : Control => { k with mode := Mode.running }) h

/-- A processor that runs is not suspended in a step. -/
lemma not_suspended_of_running (running : c.control.mode = .running) :
    c.step.1 ≠ .suspended := by
  have transition : c.Transition c.step.1 c.step.2 := transition_of_step rfl
  generalize c.step.1 = e, c.step.2 = d at transition
  rintro rfl
  cases transition with
  | stepped quiet step =>
    cases step with
    | suspended asleep =>
      refine asleep ?_
      rw [Machine.resume_eq_self running]
      exact running

/-- Nothing is dispatched while interrupts are about to be accepted, and a step that does not fail
executes an instruction and accepts them. -/
lemma Opening.step (h : c.Opening) {cycles : Nat} (ok : c.step.1.cost = .ok cycles) :
    ∃ i, c.step.1 = .executed i cycles ∧ c.step.2.control.ime = true := by
  have refused : c.control.ime = false := congrArg Control.ime h
  have waiting : c.control.pendingIme = some true := congrArg Control.pendingIme h
  cases event : c.step.1 with
  | executed i n =>
    have accepted : c.step.2.control.ime = true := by
      rw [control_step, Event.ime_control_iff refused]
      exact ⟨i, n, event, .inr waiting⟩
    rw [event] at ok
    obtain rfl := Except.ok.inj ok
    exact ⟨i, rfl, accepted⟩
  | dispatched i =>
    obtain ⟨-, accepted, -⟩ := dispatched_of_step (Prod.ext event rfl)
    rw [show c.machine.cpu.ime = false from refused] at accepted
    cases accepted
  | suspended => exact absurd event (not_suspended_of_running (congrArg Control.mode h))
  | illegal x =>
    rw [event] at ok
    cases ok

end Console

/-- **The waiting change over a run.** From power-on, whatever program runs and whatever the host
does to the memory:

* a change waits only in a processor that runs, and it is that of the instruction executed last, an
  `EI` or a `DI`;
* a move lets interrupts in that were refused exactly if it is a step that executes an instruction
  which is a `RETI`, or before which an `EI` was executed last;
* after an `EI` that leaves interrupts refused, the next step that does not fail executes an
  instruction, so it dispatches nothing, and interrupts are accepted after it. -/
theorem waitingChange_over_run (config : ConsoleConfig) (schedule : List Move) :
    let c := (Console.powerOn config).after schedule
    let executed? := lastExecuted? ((Console.powerOn config).events schedule)
    (∀ v, c.machine.cpu.pendingIme = some v →
      c.machine.cpu.mode = .running ∧
        executed? = some (if v then .enableInterrupts else .disableInterrupts)) ∧
    (∀ m, c.machine.cpu.ime = false →
      ((c.move m).machine.cpu.ime = true ↔
        m = .step ∧ ∃ i cycles, c.step.1 = .executed i cycles ∧
          (i = .retInterrupt ∨ executed? = some .enableInterrupts))) ∧
    (∀ cycles, c.step.1 = .executed .enableInterrupts cycles →
      c.step.2.machine.cpu.ime = false →
      ∀ later : List Move, (∀ e ∈ c.step.2.events later, ∃ x, e = .illegal x) →
        ∀ n, (c.step.2.after later).step.1.cost = .ok n →
          ∃ i, (c.step.2.after later).step.1 = .executed i n ∧
            (c.step.2.after later).step.2.machine.cpu.ime = true) := by
  intro c executed?
  have waiting := Console.pendingIme_eq_some_iff config schedule
  refine ⟨fun v pending => ⟨?_, (waiting v).1 pending⟩, fun m refused => ?_,
    fun cycles enabled refused later failed n ok => ?_⟩
  · refine Console.prompt_after config schedule ?_
    rw [show ((Console.powerOn config).after schedule).control.pendingIme = some v from pending]
    exact Option.some_ne_none v
  · have enabling : c.control.pendingIme = some true ↔ executed? = some .enableInterrupts :=
      waiting true
    rw [← enabling]
    exact Console.ime_move_iff m refused
  · have opening : c.step.2.Opening := Console.opening_of_enable enabled refused
    have still : (c.step.2.after later).Opening :=
      Console.after_invariant (fun _ m failed h => h.move m failed) later failed opening
    exact still.step ok

/-- `EI`, and then an opcode without a meaning. -/
def enableBeforeIllegal : List Move :=
  [.host (.write 0x0100 0xFB), .host (.write 0x0101 0xD3), .host (.write 0xFFFF 0x01)]

/-- After the `EI`, a step fails, then an interrupt is requested that is enabled, and the opcode is
replaced by a `HALT`. -/
def repairAfterFailure : List Move :=
  [.step, .host (.request .vBlank), .host (.write 0x0101 0x76)]

/-- After an `EI` the processor runs with a change waiting. The step after the failed one executes
the `HALT` although an interrupt is pending, and lets interrupts in. -/
theorem waitingChange_over_run_halt :
    let enabled := ((Console.powerOn {}).after enableBeforeIllegal).step.2
    let repaired :=
      (Console.powerOn {}).after (enableBeforeIllegal ++ .step :: repairAfterFailure)
    ((Console.powerOn {}).after (enableBeforeIllegal ++ [.step])).machine.cpu.mode = .running ∧
      (repaired.machine.interruptPending ∧ (repaired.move .step).machine.cpu.ime = true) ∧
      enabled.events repairAfterFailure = [.illegal ⟨0xD3, 0x0101⟩] ∧
      ∃ i, (enabled.after repairAfterFailure).step.1 = .executed i 4 ∧
        (enabled.after repairAfterFailure).step.2.machine.cpu.ime = true := by
  obtain ⟨prompt, -, -⟩ := waitingChange_over_run {} (enableBeforeIllegal ++ [.step])
  obtain ⟨-, lets, -⟩ :=
    waitingChange_over_run {} (enableBeforeIllegal ++ .step :: repairAfterFailure)
  obtain ⟨-, -, next⟩ := waitingChange_over_run {} enableBeforeIllegal
  have failed : ((Console.powerOn {}).after enableBeforeIllegal).step.2.events repairAfterFailure =
      [.illegal ⟨0xD3, 0x0101⟩] := by decide +kernel
  refine ⟨(prompt true (by decide +kernel)).1, ⟨by decide +kernel, (lets .step ?_).2 ?_⟩, failed,
    next 4 (by decide +kernel) (by decide +kernel) repairAfterFailure ?_ 4 ?_⟩
  · decide +kernel
  · exact ⟨rfl, .halt, 4, by decide +kernel, .inr (by decide +kernel)⟩
  · intro e he
    rw [failed, List.mem_singleton] at he
    exact ⟨_, he⟩
  · exact congrArg Event.cost (show _ = Event.executed .halt 4 by decide +kernel)

end GameBoy
