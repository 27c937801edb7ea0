import GameBoy.Console.Basic
import GameBoy.Proofs.Memory.Operation
import Mathlib.Tactic.Common

/-!
# Schedules

A console does not run alone: between two steps the host can change the memory, and it can end a
suspension. A schedule is a list of `Move`s, and every run of a console is the run of a schedule.
The host has no move that assigns a register. `Console.after` is the console that a schedule
leaves, and `Console.events` lists what happened in the steps of the schedule.
-/

namespace GameBoy

/-- What happens to a console next. -/
inductive Move where
  /-- The console makes a step. -/
  | step
  /-- The host performs an operation on the memory. -/
  | host (op : Memory.Operation)
  /-- The host ends a suspension, as a press of a button does. -/
  | wake
  deriving DecidableEq, Repr

/-- The instruction that was executed in a step, if any. -/
def Event.instruction? : Event → Option Instruction
  | .executed i _ => some i
  | .dispatched _ | .suspended | .illegal _ => none

/-- The instruction that was executed last. -/
def lastExecuted? (events : List Event) : Option Instruction :=
  (events.filterMap Event.instruction?).getLast?

@[simp] theorem lastExecuted?_singleton (e : Event) : lastExecuted? [e] = e.instruction? := by
  cases e <;> rfl

theorem lastExecuted?_append (earlier later : List Event) :
    lastExecuted? (earlier ++ later) = (lastExecuted? later).or (lastExecuted? earlier) := by
  rw [lastExecuted?, List.filterMap_append, List.getLast?_append, lastExecuted?, lastExecuted?]

namespace Console

/-- The console after a move. -/
def move (c : Console) : Move → Console
  | .step => c.step.2
  | .host op => { c with machine := { c.machine with memory := c.machine.memory.perform op } }
  | .wake => { c with machine := c.machine.wake }

/-- What happens in a move, if it is a step. -/
def event? (c : Console) : Move → Option Event
  | .step => some c.step.1
  | .host _ | .wake => none

/-- The console after a schedule. -/
def after (c : Console) (schedule : List Move) : Console := schedule.foldl move c

/-- What happens in the steps of a schedule, the first first. -/
def events (c : Console) : List Move → List Event
  | [] => []
  | m :: schedule => (c.event? m).toList ++ (c.move m).events schedule

@[simp] theorem after_nil (c : Console) : c.after [] = c := rfl

@[simp] theorem after_cons (c : Console) (m : Move) (schedule : List Move) :
    c.after (m :: schedule) = (c.move m).after schedule := rfl

@[simp] theorem events_nil (c : Console) : c.events [] = [] := rfl

@[simp] theorem events_cons (c : Console) (m : Move) (schedule : List Move) :
    c.events (m :: schedule) = (c.event? m).toList ++ (c.move m).events schedule := rfl

variable {c : Console}

/-- What every move keeps, as long as its event is of a certain kind, holds after every schedule
whose events are all of that kind. -/
theorem after_invariant {P : Console → Prop} {Q : Event → Prop}
    (kept : ∀ (c : Console) (m : Move), (∀ e ∈ c.event? m, Q e) → P c → P (c.move m))
    (schedule : List Move) (allowed : ∀ e ∈ c.events schedule, Q e) (initially : P c) :
    P (c.after schedule) := by
  induction schedule generalizing c with
  | nil => exact initially
  | cons m schedule ih =>
    rw [events_cons] at allowed
    refine ih (fun e he => allowed e (List.mem_append_right _ he)) ?_
    refine kept c m (fun e he => allowed e (List.mem_append_left _ ?_)) initially
    exact Option.mem_toList.2 he

/-- What holds before a schedule and not after it is lost in one of its moves. Up to the first such
move it holds. -/
theorem exists_move_of_lost {P : Console → Prop} (schedule : List Move) (before : P c)
    (lost : ¬ P (c.after schedule)) :
    ∃ earlier m later, schedule = earlier ++ m :: later ∧
      (∀ start, start <+: earlier → P (c.after start)) ∧ ¬ P ((c.after earlier).move m) := by
  induction schedule generalizing c with
  | nil => exact absurd before lost
  | cons m schedule ih =>
    by_cases kept : P (c.move m)
    · obtain ⟨earlier, m', later, rfl, here, gone⟩ := ih kept lost
      refine ⟨m :: earlier, m', later, rfl, fun start isStart => ?_, gone⟩
      rcases List.prefix_cons_iff.1 isStart with rfl | ⟨rest, rfl, inner⟩
      · exact before
      · exact here rest inner
    · refine ⟨[], m, schedule, rfl, fun start isStart => ?_, kept⟩
      rw [List.prefix_nil.1 isStart]
      exact before

end Console

end GameBoy
