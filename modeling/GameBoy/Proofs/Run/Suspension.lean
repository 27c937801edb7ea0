import GameBoy.Proofs.Interrupt.Dispatch
import GameBoy.Proofs.Machine.FailedStep
import GameBoy.Proofs.Run.Ending

/-!
# Suspension

A processor is asleep if it waits for a button, or if it waits for an interrupt and none is pending.
Nothing that a console does by itself ends that, so that all further steps are free and leave the
machine as it is. Conversely a step is free only for a processor that is asleep, and this is what a
frame and a run report. Two tests have to agree for that. The one before an instruction wakes a
halted processor if an interrupt is pending, whether or not interrupts are accepted; the one before
a dispatch refuses interrupts to a processor that waits for a button.
-/

namespace GameBoy

namespace Machine

variable {m : Machine}

/-- The processor waits for a button, or it waits for an interrupt and none is pending. -/
def Asleep (m : Machine) : Prop :=
  m.cpu.mode = .stopped ∨
    (m.cpu.mode = .halted ∧ m.memory.interruptEnable &&& m.memory.io.requests &&& 0x1F = 0)

lemma not_interruptPending_iff :
    ¬ m.interruptPending ↔ m.memory.interruptEnable &&& m.memory.io.requests &&& 0x1F = 0 := by
  rw [interruptPending, bne_iff_ne, not_not]
  rfl

/-- A processor is asleep exactly if it cannot be resumed. -/
lemma asleep_iff : m.Asleep ↔ m.resume.cpu.mode ≠ .running := by
  rw [Asleep, ← not_interruptPending_iff]
  by_cases wakes : m.cpu.mode = .halted ∧ m.interruptPending
  · rw [resume_of_halted wakes]
    simp [wakes.1, wakes.2]
  · rw [resume_of_not wakes]
    cases mode : m.cpu.mode with
    | running => simp
    | halted => simpa [mode] using wakes
    | stopped => simp

/-- Nothing is dispatched to a processor that is asleep. -/
lemma Asleep.nextInterrupt?_eq_none (h : m.Asleep) : m.nextInterrupt? = none := by
  refine nextInterrupt?_eq_none_of_not ?_
  rintro ⟨awake, -, pending⟩
  rcases h with stopped | ⟨-, none⟩
  · exact awake stopped
  · exact not_interruptPending_iff.2 none pending

lemma Asleep.step_eq (h : m.Asleep) : m.step = (.suspended, { m with lastCycles := 0 }) := by
  have asleep := asleep_iff.1 h
  have kept : m.resume = m := by
    refine resume_of_not fun wakes => asleep ?_
    rw [resume_of_halted wakes]
  rw [kept] at asleep
  unfold step
  rw [kept, if_neg asleep]

end Machine

namespace Console

variable {c : Console}

/-- The console with its last step being free. -/
def idle (c : Console) : Console := { c with machine := { c.machine with lastCycles := 0 } }

/-! ## Sleeping on

The consoles that an asleep one can become are those with the same `idle`: they differ at most in
the cycles of the last step. -/

lemma step_of_asleep (h : c.machine.Asleep) : c.step = (.suspended, c.idle) := by
  rw [step_of_quiet h.nextInterrupt?_eq_none, h.step_eq]
  rfl

lemma asleep_of_idle_eq {d : Console} (h : c.machine.Asleep) (same : d.idle = c.idle) :
    d.machine.Asleep := by
  have idle : d.idle.machine.Asleep := by
    rw [same]
    exact h
  exact idle

lemma config_of_idle_eq {d : Console} (same : d.idle = c.idle) : d.config = c.config :=
  congrArg (fun c => c.config) same

lemma step_of_idle_eq {d : Console} (h : c.machine.Asleep) (same : d.idle = c.idle) :
    d.step = (.suspended, c.idle) := by
  rw [step_of_asleep (asleep_of_idle_eq h same), same]

/-- A frame with a budget ends at its first step if the processor is asleep. -/
lemma runFrame_of_idle_eq {d : Console} (h : c.machine.Asleep) (budget : 0 < c.config.frameCycles)
    (same : d.idle = c.idle) : d.runFrame = (.ok ⟨0, true⟩, c.idle) := by
  have step := step_of_idle_eq h same
  have free : d.step.1.cost = .ok 0 := by
    rw [step]
    rfl
  have left : 0 < d.config.frameCycles.toNat := by
    rw [config_of_idle_eq same]
    exact UInt32.lt_iff_toNat_lt.1 budget
  rw [runFrame, runUntil_of_free left free, step]

/-- What only makes a console idle does so however often it is repeated. -/
lemma iterate_idle {f : Console → Console} (idles : ∀ d, d.idle = c.idle → f d = c.idle)
    {d : Console} (same : d.idle = c.idle) (n : ℕ) : f^[n + 1] d = c.idle := by
  rw [Function.iterate_succ_apply, idles d same]
  exact Function.iterate_fixed (idles c.idle rfl) n

lemma idle_iterate {f : Console → Console} (idles : ∀ d, d.idle = c.idle → f d = c.idle)
    {d : Console} (same : d.idle = c.idle) (n : ℕ) : (f^[n] d).idle = c.idle := by
  cases n with
  | zero => exact same
  | succ n =>
    rw [iterate_idle idles same]
    rfl

lemma steps_of_asleep (h : c.machine.Asleep) (n : ℕ) : c.steps (n + 1) = c.idle := by
  refine iterate_idle (fun d same => ?_) rfl n
  rw [step_of_idle_eq h same]

lemma idle_steps_of_asleep (h : c.machine.Asleep) (n : ℕ) : (c.steps n).idle = c.idle := by
  refine idle_iterate (fun d same => ?_) rfl n
  rw [step_of_idle_eq h same]

/-- Neither steps nor frames wake the processor. -/
lemma idle_frames_of_asleep (h : c.machine.Asleep) (budget : 0 < c.config.frameCycles) (m n : ℕ) :
    ((c.steps m).frames n).idle = c.idle := by
  refine idle_iterate (fun d same => ?_) (idle_steps_of_asleep h m) n
  rw [runFrame_of_idle_eq h budget same]

/-! ## Falling asleep -/

/-- A step is free only if the processor is asleep. -/
lemma asleep_of_free (free : c.step.1.cost = .ok 0) : c.machine.Asleep := by
  have transition : c.Transition c.step.1 c.step.2 := transition_of_step rfl
  generalize c.step.1 = e, c.step.2 = d at free transition
  cases transition with
  | dispatched allowed due => cases free
  | stepped quiet step =>
    cases step with
    | executed running decoded =>
      have dear := (Instruction.cycles_bounds (Instruction.isEncodable_of_decode decoded)
        c.machine.cpu.flags).1
      obtain none := Except.ok.inj free
      omega
    | illegal running decoded => cases free
    | suspended asleep => exact Machine.asleep_iff.2 asleep

/-- After a frame that reports a suspension, the processor is asleep. -/
lemma asleep_of_runFrame {f : FrameSummary} (ok : c.runFrame.1 = .ok f) (suspended : f.suspended) :
    c.runFrame.2.machine.Asleep := by
  obtain ⟨n, -, final, reports⟩ := c.runFrame_spec
  obtain ⟨cycles, flag⟩ := f
  obtain rfl : flag = true := suspended
  rw [ok] at reports
  obtain ⟨⟨k, rfl, free⟩, -⟩ := reports
  have asleep : (c.steps k).machine.Asleep := asleep_of_free free
  rw [final, steps_succ_last, step_of_asleep asleep]
  exact asleep

/-- A halted processor does not stay asleep when an interrupt is pending: the next step dispatches
the most urgent one, or else it wakes the processor and executes the instruction at the program
counter, if there is one. -/
lemma step_of_woken (halted : c.machine.cpu.mode = .halted) (pending : c.machine.interruptPending) :
    if c.config.serviceInterrupts ∧ c.machine.cpu.ime then
      ∃ i, Interrupt.mostUrgent? c.machine.memory.pendingInterrupts = some i ∧
        c.step = (.dispatched i, { c with machine := c.machine.dispatch i })
    else
      match Instruction.decode c.machine.memory c.machine.cpu.pc with
      | .ok (i, next) =>
        c.step = (.executed i (i.cycles c.machine.cpu.flags),
          { c with machine :=
            { (c.machine.wake.start next).execute i with
              lastCycles := i.cycles c.machine.cpu.flags } })
      | .error x => c.step = (.illegal x, { c with machine := c.machine.wake }) := by
  have awake : c.machine.cpu.mode ≠ .stopped := by
    rw [halted]
    decide
  have resumed : c.machine.resume = c.machine.wake := Machine.resume_of_halted ⟨halted, pending⟩
  have transition : c.Transition c.step.1 c.step.2 := transition_of_step rfl
  rw [← Prod.mk.eta (p := c.step)]
  generalize c.step.1 = e, c.step.2 = d at transition
  cases transition with
  | @dispatched i allowed due =>
    obtain ⟨-, accepted, -, urgent⟩ := Machine.nextInterrupt?_eq_some due
    rw [if_pos ⟨allowed, accepted⟩]
    exact ⟨i, urgent, rfl⟩
  | stepped quiet step =>
    have refused : ¬(c.config.serviceInterrupts ∧ c.machine.cpu.ime) := by
      rintro ⟨allowed, accepted⟩
      obtain ⟨i, found⟩ := c.machine.exists_mostUrgent?_of_pending pending
      rw [← Machine.mostUrgent?_pendingInterrupts,
        ← Machine.nextInterrupt?_of_accepted awake accepted pending, quiet allowed] at found
      cases found
    rw [if_neg refused]
    cases step with
    | executed running decoded => rw [decoded, resumed]
    | illegal running decoded => rw [decoded, resumed]
    | suspended asleep =>
      refine absurd ?_ asleep
      rw [resumed]
      rfl

end Console

/-- After a run that reports a suspension, the processor is asleep. -/
lemma Run.asleep_of_finish? {s : Settings} {c : Console} {n : ℕ} {report : Report}
    (h : finish? s n [] (start s c) = some report) (suspended : report.result = .ok .suspended) :
    report.run.console.machine.Asleep := by
  have account := finish?_trail s c n 0 []
  rw [show trail s c 0 = start s c from rfl, h] at account
  obtain ⟨k, -, -, -, ends⟩ := account
  have cause := ends.cause
  rw [suspended] at cause
  cases cause with
  | suspended frame silent asleep =>
    -- The last frame reports it, and the run has only collected the output since then.
    have after : (c.frames (k + 1)).machine.Asleep := by
      rw [Console.frames_succ_last]
      exact Console.asleep_of_runFrame frame asleep
    have same : report.run.console.clearSerial.machine.Asleep := by
      rw [ends.console]
      exact after
    exact same

/-- **Suspension is final, and is reported only then.** The free steps are those of a processor that
is asleep. From there no step takes a cycle or changes anything but the cycles of the last step, and
every frame with a budget reports a suspension after no cycles at all, whatever was done before of
the two. Conversely, after a frame or a run that reports a suspension the processor is asleep. A
halted processor that has an interrupt pending is not: its next step dispatches the most urgent one,
or it wakes the processor and executes the instruction at the program counter if interrupts are not
accepted. -/
theorem suspension_final_iff (c : Console) :
    (c.step.1.cost = .ok 0 ↔ c.machine.Asleep) ∧
    (c.machine.Asleep →
      (∀ n, (c.stepEvent n).cost = .ok 0 ∧ c.steps (n + 1) = c.idle) ∧
      (1 ≤ c.config.frameCycles →
        ∀ m n, ((c.steps m).frames n).runFrame = (.ok ⟨0, true⟩, c.idle))) ∧
    (∀ f, c.runFrame.1 = .ok f → f.suspended → c.runFrame.2.machine.Asleep) ∧
    (∀ s n report, Run.finish? s n [] (Run.start s c) = some report →
      report.result = .ok .suspended → report.run.console.machine.Asleep) ∧
    (c.machine.cpu.mode = .halted →
      c.machine.memory.interruptEnable &&& c.machine.memory.io.requests &&& 0x1F ≠ 0 →
      if c.config.serviceInterrupts ∧ c.machine.cpu.ime then
        ∃ i, Interrupt.mostUrgent? c.machine.memory.pendingInterrupts = some i ∧
          c.step = (.dispatched i, { c with machine := c.machine.dispatch i })
      else
        match Instruction.decode c.machine.memory c.machine.cpu.pc with
        | .ok (i, next) =>
          c.step = (.executed i (i.cycles c.machine.cpu.flags),
            { c with machine :=
              { (c.machine.wake.start next).execute i with
                lastCycles := i.cycles c.machine.cpu.flags } })
        | .error x => c.step = (.illegal x, { c with machine := c.machine.wake })) := by
  refine ⟨⟨Console.asleep_of_free, fun asleep => ?_⟩, fun asleep => ⟨fun n => ?_, ?_⟩,
    fun f ok suspended => Console.asleep_of_runFrame ok suspended,
    fun s n report ended suspended => Run.asleep_of_finish? ended suspended,
    fun halted pending => Console.step_of_woken halted ?_⟩
  · rw [Console.step_of_asleep asleep]
    rfl
  · have event : (c.stepEvent n).cost = .ok 0 := by
      rw [Console.stepEvent, Console.step_of_idle_eq asleep (Console.idle_steps_of_asleep asleep n)]
      rfl
    exact ⟨event, Console.steps_of_asleep asleep n⟩
  · intro budget m n
    have left : 0 < c.config.frameCycles := by
      rw [UInt32.le_iff_toNat_le] at budget
      exact UInt32.lt_iff_toNat_lt.2 budget
    exact Console.runFrame_of_idle_eq asleep left (Console.idle_frames_of_asleep asleep left m n)
  · by_contra none
    exact pending (Machine.not_interruptPending_iff.1 none)

/-- A console that has executed `EI` and `STOP`, after which the timer requested an interrupt that
is enabled and accepted. -/
def stoppedBeforeTimer : Console :=
  (Console.powerOn {}).after
    [.host (.write 0x0100 0xFB), .host (.write 0x0101 0x10), .host (.write 0xFFFF 0x04),
      .step, .step, .host (.request .timer)]

/-- The stopped console sleeps on although an interrupt is triggered, and a run reports that. The
halted one reads the opcode that it was halted in front of. -/
theorem suspension_final_iff_stopped :
    stoppedBeforeTimer.machine.interruptTriggered ∧
      stoppedBeforeTimer.step.1.cost = .ok 0 ∧
      ((stoppedBeforeTimer.steps 7).frames 5).runFrame = (.ok ⟨0, true⟩, stoppedBeforeTimer.idle) ∧
      stoppedBeforeTimer.runFrame.2.machine.Asleep ∧
      (∃ report, Run.finish? {} 1 [] (Run.start {} stoppedBeforeTimer) = some report ∧
        report.run.console.machine.Asleep) ∧
      haltedBeforeIllegal.step = (.illegal ⟨0xD3, 0x0101⟩,
        { haltedBeforeIllegal with machine := haltedBeforeIllegal.machine.wake }) := by
  have stopped : stoppedBeforeTimer.machine.cpu.mode = .stopped := by decide +kernel
  obtain ⟨free, final, frame, run, -⟩ := suspension_final_iff stoppedBeforeTimer
  have asleep : stoppedBeforeTimer.machine.Asleep := .inl stopped
  have frames := (final asleep).2 (by decide)
  have first : stoppedBeforeTimer.runFrame = (.ok ⟨0, true⟩, stoppedBeforeTimer.idle) := frames 0 0
  have ended : (Run.finish? {} 1 [] (Run.start {} stoppedBeforeTimer)).map Run.Report.result =
      some (.ok .suspended) := by decide +kernel
  obtain ⟨report, found, suspended⟩ := Option.map_eq_some_iff.1 ended
  refine ⟨by decide +kernel, free.2 asleep, frames 7 5, frame ⟨0, true⟩ ?_ rfl,
    ⟨report, found, run _ _ _ found suspended⟩, ?_⟩
  · rw [first]
  · have woken := (suspension_final_iff haltedBeforeIllegal).2.2.2.2 (by decide +kernel)
      (by decide +kernel)
    have illegal : Instruction.decode haltedBeforeIllegal.machine.memory
        haltedBeforeIllegal.machine.cpu.pc = .error ⟨0xD3, 0x0101⟩ := by rfl
    rw [if_neg (by decide +kernel), illegal] at woken
    exact woken

end GameBoy
