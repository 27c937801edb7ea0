import GameBoy.Proofs.Console.Schedule
import GameBoy.Proofs.Interrupt.Request

/-!
# Delivery of requests

A request is neither lost nor delivered twice. Whatever runs, and whatever the host does, the bit of
an interrupt stays set until the interrupt is dispatched or a byte is written over the requests; and
since a dispatch clears the bit, a second one needs a request that was made after the first. Both
statements look for the one move of a schedule in which the bit changes
(`Console.exists_move_of_lost`), and say what this move can be.
-/

namespace GameBoy

namespace Console

variable {c : Console} {m : Move} {t : Interrupt}

/-- An interrupt is requested. -/
def Requested (c : Console) (t : Interrupt) : Prop := c.machine.memory.Requested t

instance (c : Console) (t : Interrupt) : Decidable (c.Requested t) :=
  inferInstanceAs (Decidable (c.machine.memory.Requested t))

/-- The writes of a move on the address bus, the first first. -/
def writesIn (c : Console) : Move → List BusWrite
  | .step => c.writes
  | .host op => op.writes c.machine.memory
  | .wake => []

/-- A move can use up a request: it dispatches the interrupt, it writes a byte over the requests, or
the host withdraws the request. -/
def Consumes (c : Console) (m : Move) (t : Interrupt) : Prop :=
  c.event? m = some (.dispatched t) ∨ (∃ w ∈ c.writesIn m, w.address = 0xFF0F) ∨
    m = .host (.withdraw t)

/-- A move makes a request: the host makes it, or a write does. -/
def Raises (c : Console) (m : Move) (t : Interrupt) : Prop :=
  m = .host (.request t) ∨ ∃ w ∈ c.writesIn m, w.Raises t

/-! ## One move -/

/-- An interrupt is dispatched in a step exactly if it is serviced before the machine makes one. -/
lemma dispatched_iff : c.step.1 = .dispatched t ↔ c.serviceInterrupt.1 = some t := by
  unfold step
  cases serviced : c.serviceInterrupt with
  | mk i? d =>
    cases i? with
    | some i => simp
    | none =>
      have other : d.machine.step.1 ≠ .dispatched t := fun h =>
        Machine.Transition.not_dispatched (Machine.transition_of_step (Prod.ext h rfl))
      simp [other]

/-- Only an interrupt that is requested is dispatched. -/
lemma requested_of_dispatched (h : c.step.1 = .dispatched t) : c.Requested t := by
  have transition : c.Transition c.step.1 c.step.2 := transition_of_step rfl
  rw [h] at transition
  generalize c.step.2 = d at transition
  cases transition with
  | dispatched allowed due =>
    obtain ⟨-, -, -, urgent⟩ := Machine.nextInterrupt?_eq_some due
    have pending := Interrupt.isIn_of_mostUrgent? urgent
    rw [Machine.pendingInterrupts_eq, Interrupt.isIn_and, Interrupt.isIn_and] at pending
    exact pending.1.2
  | stepped quiet step => exact absurd step Machine.Transition.not_dispatched

/-- The dispatch of an interrupt uses its request up. -/
lemma not_requested_of_dispatched (h : c.step.1 = .dispatched t) : ¬ c.step.2.Requested t := by
  unfold Requested
  rw [memory_step, dispatched_iff.1 h]
  intro still
  exact (Memory.requested_withdraw.1 still).2 rfl

/-- A request stays over a move that does not use it up. -/
lemma Requested.move (h : c.Requested t) (keeps : ¬ c.Consumes m t) : (c.move m).Requested t := by
  have other : ∀ w ∈ c.writesIn m, w.address ≠ 0xFF0F := fun w member address =>
    keeps (.inr (.inl ⟨w, member, address⟩))
  cases m with
  | step =>
    have written : (c.machine.memory.writeAll c.writes).Requested t :=
      Memory.Requested.writeAll h other
    rw [Console.move, Requested, memory_step]
    cases serviced : c.serviceInterrupt.1 with
    | none => exact written
    | some i =>
      refine Memory.requested_withdraw.2 ⟨written, ?_⟩
      rintro rfl
      exact keeps (.inl (congrArg some (dispatched_iff.2 serviced)))
  | host op =>
    refine Memory.Requested.perform h ?_ other
    rintro rfl
    exact keeps (.inr (.inr rfl))
  | wake => exact h

/-- An interrupt that is requested after a move and was not before is requested by the move. -/
lemma raises_of_move (before : ¬ c.Requested t) (after : (c.move m).Requested t) :
    c.Raises m t := by
  cases m with
  | step =>
    have written : (c.machine.memory.writeAll c.writes).Requested t := by
      rw [move, Requested, memory_step] at after
      cases serviced : c.serviceInterrupt.1 with
      | none =>
        rw [serviced] at after
        exact after
      | some i =>
        rw [serviced] at after
        exact (Memory.requested_withdraw.1 after).1
    exact .inr (Memory.exists_raises_of_writeAll before written)
  | host op =>
    rcases Memory.raises_of_perform before after with rfl | written
    · exact .inl rfl
    · exact .inr written
  | wake => exact absurd after before

end Console

/-- **Delivery.** From any state, whatever runs and whatever the host does, and for each interrupt:

* if it is requested, and is not after a schedule, then it stays requested up to one of the moves,
  and this move dispatches it, writes a byte over the requests, or is the withdrawal by the host;
* if a step dispatches it, it was requested before the step and is not after it, and before it is
  dispatched again it is requested anew in one of the moves between the two: by the host, by a write
  of its bit, or, for the serial line, by a write that starts a transfer. -/
theorem request_delivered_once (c : Console) (t : Interrupt) :
    (c.Requested t → ∀ schedule : List Move, ¬ (c.after schedule).Requested t →
      ∃ earlier m later, schedule = earlier ++ m :: later ∧
        (∀ start, start <+: earlier → (c.after start).Requested t) ∧
        (c.after earlier).Consumes m t) ∧
    (c.step.1 = .dispatched t →
      c.Requested t ∧ ¬ c.step.2.Requested t ∧
      ∀ between : List Move, (c.step.2.after between).step.1 = .dispatched t →
        ∃ earlier m later, between = earlier ++ m :: later ∧
          (c.step.2.after earlier).Raises m t) := by
  refine ⟨fun requested schedule lost => ?_, fun served => ?_⟩
  · obtain ⟨earlier, m, later, split, here, gone⟩ :=
      Console.exists_move_of_lost (P := fun c => c.Requested t) schedule requested lost
    refine ⟨earlier, m, later, split, here, ?_⟩
    by_contra keeps
    exact gone ((here earlier List.prefix_rfl).move keeps)
  · have idle := Console.not_requested_of_dispatched served
    refine ⟨Console.requested_of_dispatched served, idle, fun between again => ?_⟩
    obtain ⟨earlier, m, later, split, here, raised⟩ :=
      Console.exists_move_of_lost (P := fun c => ¬ c.Requested t) between idle
        (not_not_intro (Console.requested_of_dispatched again))
    refine ⟨earlier, m, later, split, ?_⟩
    exact Console.raises_of_move (here earlier List.prefix_rfl) (not_not.1 raised)

/-- A console that is about to serve the serial line. The handler sends a byte and returns. -/
def sendingFromHandler : Console where
  config := {}
  machine := {
    cpu := { Cpu.powerOn with a := 0x81, ime := true }
    memory := Memory.powerOn.writeAll
      [⟨0xFFFF, 0x08⟩, ⟨0xFF0F, 0x08⟩, ⟨0x0058, 0xE0⟩, ⟨0x0059, 0x02⟩, ⟨0x005A, 0xD9⟩]
    lastCycles := 0 }

/-- The dispatch uses the request up, and the serial line is served again at the return, for the
handler has started a transfer. -/
theorem request_delivered_once_transfer :
    let c := sendingFromHandler
    (c.Requested .serial ∧ ¬ (c.after [.step]).Requested .serial ∧
      ∃ earlier m later, [.step] = earlier ++ m :: later ∧
        (∀ start, start <+: earlier → (c.after start).Requested .serial) ∧
        (c.after earlier).Consumes m .serial) ∧
    c.step.1 = .dispatched .serial ∧
    (c.step.2.after [.step, .step]).step.1 = .dispatched .serial ∧
      ∃ earlier m later, [.step, .step] = earlier ++ m :: later ∧
        (c.step.2.after earlier).Raises m .serial := by
  intro c
  have requested : c.Requested .serial := by decide +kernel
  have lost : ¬ (c.after [.step]).Requested .serial := by decide +kernel
  have served : c.step.1 = .dispatched .serial := by decide +kernel
  have again : (c.step.2.after [.step, .step]).step.1 = .dispatched .serial := by decide +kernel
  obtain ⟨kept, delivered⟩ := request_delivered_once c .serial
  exact ⟨⟨requested, lost, kept requested _ lost⟩, served, again,
    (delivered served).2.2 _ again⟩

end GameBoy
