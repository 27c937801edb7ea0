import GameBoy.Proofs.Instruction.Encodable
import GameBoy.Proofs.Machine.Transition
import Mathlib.Algebra.BigOperators.Group.Finset.Basic
import Mathlib.Algebra.Order.BigOperators.Group.Finset
import Mathlib.Data.Nat.Count
import Mathlib.Logic.Function.Iterate

/-!
# The steps of a console

A console that is left alone makes one step after the other. `Console.steps` is the console after a
number of steps, `Console.stepEvent` what happened in a step, the first having the number zero, and
`Console.spent` the sum of the cycles that the steps took. A step that succeeds either takes between
four and twenty-four cycles, or it takes none and leaves the processor suspended, so that the cycles
of a run bound the number of its steps.
-/

namespace GameBoy

/-- The clock cycles that a step is charged with. A step that fails is charged with none. -/
def Event.charge (e : Event) : ℕ :=
  match e.cost with
  | .ok n => n
  | .error _ => 0

/-- A step that succeeds is charged with its cost. -/
lemma Event.charge_of_ok {e : Event} {n : ℕ} (h : e.cost = .ok n) : e.charge = n := by
  rw [charge, h]

/-- A step that fails is free. -/
lemma Event.charge_of_error {e : Event} {x : IllegalOpcode} (h : e.cost = .error x) :
    e.charge = 0 := by
  rw [charge, h]

namespace Console

/-! ## The cost of a step -/

/-- A machine that resuming leaves suspended was suspended before. -/
lemma mode_ne_running_of_resume {m : Machine} (h : m.resume.cpu.mode ≠ .running) :
    m.cpu.mode ≠ .running := by
  intro running
  apply h
  rw [Machine.resume_eq_self running, running]

/-- **What a step costs.** A step that succeeds costs nothing and leaves the processor suspended, or
it costs between four and twenty-four cycles. -/
theorem cost_step {c : Console} {n : ℕ} (h : c.step.1.cost = .ok n) :
    (n = 0 ∧ c.step.2.machine.cpu.mode ≠ .running) ∨ (4 ≤ n ∧ n ≤ 24) := by
  have transition : c.Transition c.step.1 c.step.2 := transition_of_step rfl
  generalize c.step.1 = e, c.step.2 = d at h transition
  cases transition with
  | dispatched allowed due =>
    obtain rfl := Except.ok.inj h
    exact .inr (by decide)
  | stepped quiet step =>
    cases step with
    | executed running decoded =>
      obtain rfl := Except.ok.inj h
      exact .inr (Instruction.cycles_bounds (Instruction.isEncodable_of_decode decoded) _)
    | illegal running decoded => cases h
    | suspended asleep =>
      obtain rfl := Except.ok.inj h
      exact .inl ⟨rfl, mode_ne_running_of_resume (m := c.machine) asleep⟩

/-- No step is charged with more than twenty-four cycles. -/
lemma charge_step_le (c : Console) : c.step.1.charge ≤ 24 := by
  cases h : c.step.1.cost with
  | ok n =>
    rw [Event.charge_of_ok h]
    rcases cost_step h with ⟨free, -⟩ | ⟨-, dear⟩ <;> omega
  | error x =>
    rw [Event.charge_of_error h]
    exact Nat.zero_le _

/-- A step that is charged at all is charged with four cycles at least. -/
lemma four_le_charge_step {c : Console} (h : 0 < c.step.1.charge) : 4 ≤ c.step.1.charge := by
  cases cost : c.step.1.cost with
  | ok n =>
    rw [Event.charge_of_ok cost] at h ⊢
    rcases cost_step cost with ⟨free, -⟩ | ⟨dear, -⟩ <;> omega
  | error x =>
    rw [Event.charge_of_error cost] at h
    cases h

/-! ## Sequences of steps -/

/-- The console after a number of steps. -/
def steps (c : Console) (n : ℕ) : Console := (fun c => c.step.2)^[n] c

/-- What happened in a step of the sequence. -/
def stepEvent (c : Console) (n : ℕ) : Event := (c.steps n).step.1

/-- The cycles that a number of steps took. -/
def spent (c : Console) (n : ℕ) : ℕ := ∑ i ∈ Finset.range n, (c.stepEvent i).charge

/-- The number of steps, among the first ones, that were charged. -/
def charged (c : Console) (n : ℕ) : ℕ := Nat.count (fun i => 0 < (c.stepEvent i).charge) n

variable (c : Console)

@[simp] theorem spent_zero : c.spent 0 = 0 := rfl

theorem steps_succ (n : ℕ) : c.steps (n + 1) = c.step.2.steps n := rfl

theorem stepEvent_zero : c.stepEvent 0 = c.step.1 := rfl

/-- The last step can be split off as well as the first. -/
lemma steps_succ_last (n : ℕ) : c.steps (n + 1) = (c.steps n).step.2 :=
  Function.iterate_succ_apply' _ n c

/-- A sequence of steps can be cut in two. -/
lemma steps_add (m n : ℕ) : c.steps (m + n) = (c.steps m).steps n := by
  rw [steps, Nat.add_comm, Function.iterate_add_apply]
  rfl

lemma stepEvent_add (m n : ℕ) : c.stepEvent (m + n) = (c.steps m).stepEvent n := by
  rw [stepEvent, steps_add, stepEvent]

/-- The cycles of the first step and those of the others. -/
lemma spent_succ (n : ℕ) : c.spent (n + 1) = c.step.1.charge + c.step.2.spent n := by
  rw [spent, Finset.sum_range_succ', Nat.add_comm]
  rfl

/-- The cycles of the last step and those of the others. -/
lemma spent_succ_last (n : ℕ) : c.spent (n + 1) = c.spent n + (c.stepEvent n).charge :=
  Finset.sum_range_succ _ n

/-- Cycles add up when a sequence is cut in two. -/
lemma spent_add (m n : ℕ) : c.spent (m + n) = c.spent m + (c.steps m).spent n := by
  rw [spent, Finset.sum_range_add, spent, spent]
  simp only [stepEvent_add]

/-- Each charged step takes four cycles at least. -/
lemma four_mul_charged_le (n : ℕ) : 4 * c.charged n ≤ c.spent n := by
  induction n with
  | zero => exact Nat.le_refl 0
  | succ n ih =>
    rw [charged, Nat.count_succ, ← charged, spent_succ_last]
    split_ifs with dear
    · have := four_le_charge_step (c := c.steps n) dear
      change 4 ≤ (c.stepEvent n).charge at this
      omega
    · omega

/-- One more step is at most one more charged step. -/
lemma charged_succ_le (n : ℕ) : c.charged (n + 1) ≤ c.charged n + 1 := by
  rw [charged, Nat.count_succ, ← charged]
  split_ifs <;> omega

/-! ## Where the sequence stops -/

/-- A step of the sequence makes no progress: it costs nothing and leaves the processor suspended,
or it fails. -/
inductive StopsAt (c : Console) (n : ℕ) : Prop
  /-- The processor is suspended. -/
  | suspended (free : (c.stepEvent n).cost = .ok 0)
      (asleep : (c.steps (n + 1)).machine.cpu.mode ≠ .running)
  /-- The step fails. -/
  | failed {x : IllegalOpcode} (error : (c.stepEvent n).cost = .error x)

/-- The sequence stops where a later part of it stops. -/
lemma stopsAt_add {m n : ℕ} : c.StopsAt (m + n) ↔ (c.steps m).StopsAt n := by
  constructor
  · rintro (⟨free, asleep⟩ | ⟨error⟩)
    · rw [stepEvent_add] at free
      rw [Nat.add_assoc, steps_add] at asleep
      exact .suspended free asleep
    · rw [stepEvent_add] at error
      exact .failed error
  · rintro (⟨free, asleep⟩ | ⟨error⟩)
    · rw [← stepEvent_add] at free
      rw [← steps_add, ← Nat.add_assoc] at asleep
      exact .suspended free asleep
    · rw [← stepEvent_add] at error
      exact .failed error

variable {c}

/-- The sequence stops at a step that costs nothing. -/
lemma stopsAt_of_free {n : ℕ} (free : (c.stepEvent n).cost = .ok 0) : c.StopsAt n := by
  rcases cost_step (c := c.steps n) free with ⟨-, asleep⟩ | ⟨dear, -⟩
  · rw [← steps_succ_last] at asleep
    exact .suspended free asleep
  · cases dear

/-- A step where the sequence stops is not charged. -/
lemma StopsAt.charge_eq_zero {n : ℕ} (h : c.StopsAt n) : (c.stepEvent n).charge = 0 := by
  cases h with
  | suspended free asleep => exact Event.charge_of_ok free
  | failed error => exact Event.charge_of_error error

/-! ## Changes that the steps do not see -/

/-- A change of the console after which every step does the same as without it. -/
structure Unseen (change : Console → Console) : Prop where
  /-- A step keeps the change. -/
  step (c : Console) : (change c).step = (c.step.1, change c.step.2)
  /-- The change keeps the mode. -/
  mode (c : Console) : (change c).machine.cpu.mode = c.machine.cpu.mode

namespace Unseen

variable {change : Console → Console} (h : Unseen change)
include h

lemma steps (c : Console) (n : ℕ) : (change c).steps n = change (c.steps n) := by
  induction n generalizing c with
  | zero => rfl
  | succ n ih => rw [steps_succ, h.step, ih, steps_succ]

lemma stepEvent (c : Console) (n : ℕ) : (change c).stepEvent n = c.stepEvent n := by
  rw [Console.stepEvent, h.steps, h.step, Console.stepEvent]

lemma spent (c : Console) (n : ℕ) : (change c).spent n = c.spent n := by
  unfold Console.spent
  simp only [h.stepEvent]

lemma stopsAt {c : Console} {n : ℕ} : (change c).StopsAt n ↔ c.StopsAt n := by
  constructor
  · rintro (⟨free, asleep⟩ | ⟨error⟩)
    · rw [h.stepEvent] at free
      rw [h.steps, h.mode] at asleep
      exact .suspended free asleep
    · rw [h.stepEvent] at error
      exact .failed error
  · rintro (⟨free, asleep⟩ | ⟨error⟩)
    · rw [← h.stepEvent] at free
      rw [← h.mode, ← h.steps] at asleep
      exact .suspended free asleep
    · rw [← h.stepEvent] at error
      exact .failed error

end Unseen

end Console

end GameBoy
