import GameBoy.Console.Frame
import GameBoy.Proofs.Console.Steps
import Mathlib.Order.Bounds.Basic

/-!
# A frame is a budgeted part of the steps

A frame makes the steps that the console would make anyway and stops counting at its budget. The
steps after which it may end are those of `Console.FrameEnds`: the cycles have reached the budget,
or the last step made no progress. `runFrame_spec` says that a frame ends after the first of them,
whatever the program is, and how its summary counts the cycles up to there.

The loop of a frame can ask for more than that a step was free: for the frame to end early, the
processor must be suspended, too. A free step always leaves it suspended, so that this is the same
loop (`eq_runUntil_iff`).
-/

namespace GameBoy

namespace Console

variable {c : Console}

/-- A frame may end after a number of steps: they have used up the budget, or the last of them made
no progress. -/
def FrameEnds (c : Console) (budget n : ℕ) : Prop :=
  budget ≤ c.spent n ∨ ∃ k, n = k + 1 ∧ c.StopsAt k

/-- A frame with a budget makes a step. -/
lemma not_frameEnds_zero {budget : ℕ} (left : 0 < budget) : ¬ c.FrameEnds budget 0 := by
  rintro (used | ⟨k, none, -⟩)
  · rw [spent_zero] at used
    omega
  · cases none

/-- A frame ends after its first step if that made no progress. -/
lemma isLeast_frameEnds_one {budget : ℕ} (left : 0 < budget) (stops : c.StopsAt 0) :
    IsLeast {n | c.FrameEnds budget n} 1 := by
  refine ⟨.inr ⟨0, rfl, stops⟩, fun n ends => ?_⟩
  rcases Nat.eq_zero_or_pos n with rfl | pos
  · exact absurd ends (not_frameEnds_zero left)
  · exact pos

/-- After a step that made progress, the frame goes on with what is left of the budget. -/
lemma frameEnds_succ {budget n : ℕ} (going : ¬ c.StopsAt 0) :
    c.FrameEnds budget (n + 1) ↔ c.step.2.FrameEnds (budget - c.step.1.charge) n := by
  have budgets : budget ≤ c.spent (n + 1) ↔ budget - c.step.1.charge ≤ c.step.2.spent n := by
    rw [spent_succ]
    omega
  have later (k : ℕ) : c.StopsAt (k + 1) ↔ c.step.2.StopsAt k := by
    rw [Nat.add_comm k 1]
    exact c.stopsAt_add
  unfold FrameEnds
  rw [budgets]
  refine or_congr_right ⟨?_, ?_⟩
  · rintro ⟨k, same, stops⟩
    obtain rfl := Nat.succ.inj same
    cases n with
    | zero => exact absurd stops going
    | succ n => exact ⟨n, rfl, (later n).1 stops⟩
  · rintro ⟨k, rfl, stops⟩
    exact ⟨k + 1, rfl, (later k).2 stops⟩

/-- The first end of a frame is one step further than that of what is left of it. -/
lemma isLeast_frameEnds_succ {budget n : ℕ} (left : 0 < budget) (going : ¬ c.StopsAt 0)
    (rest : IsLeast {n | c.step.2.FrameEnds (budget - c.step.1.charge) n} n) :
    IsLeast {n | c.FrameEnds budget n} (n + 1) := by
  refine ⟨(frameEnds_succ going).2 rest.1, fun m ends => ?_⟩
  cases m with
  | zero => exact absurd ends (not_frameEnds_zero left)
  | succ m => exact Nat.succ_le_succ (rest.2 ((frameEnds_succ going).1 ends))

/-- What a frame reports after `n` steps, if `before` cycles were spent when it began: the cause of
a failure, or the cycles and whether the processor is suspended. -/
def Reports (c : Console) (budget before n : ℕ) : Except IllegalOpcode FrameSummary → Prop
  | .error x => ∃ k, n = k + 1 ∧ (c.stepEvent k).cost = .error x
  | .ok ⟨cycles, true⟩ =>
    (∃ k, n = k + 1 ∧ (c.stepEvent k).cost = .ok 0) ∧
      before + c.spent n < budget ∧ cycles = before + c.spent n
  | .ok ⟨cycles, false⟩ =>
    budget ≤ before + c.spent n ∧ before + c.spent n < budget + 24 ∧
      cycles = min (before + c.spent n) maxFrameCycles

/-- A report about the rest of a frame is one about the whole. -/
lemma Reports.cons {budget before n : ℕ} {r : Except IllegalOpcode FrameSummary}
    (h : c.step.2.Reports budget (before + c.step.1.charge) n r) :
    c.Reports budget before (n + 1) r := by
  have total : before + c.spent (n + 1) = before + c.step.1.charge + c.step.2.spent n := by
    rw [spent_succ, Nat.add_assoc]
  match r with
  | .error x =>
    obtain ⟨k, rfl, failed⟩ := h
    exact ⟨k + 1, rfl, failed⟩
  | .ok ⟨cycles, true⟩ =>
    obtain ⟨⟨k, rfl, free⟩, within, same⟩ := h
    rw [← total] at within same
    exact ⟨⟨k + 1, rfl, free⟩, within, same⟩
  | .ok ⟨cycles, false⟩ =>
    obtain ⟨used, within, same⟩ := h
    rw [← total] at used within same
    exact ⟨used, within, same⟩

/-! ## The loop of a frame -/

section Loop

variable {budget : UInt32} {cycles : ℕ}

/-- The loop ends when the budget is used up. -/
lemma runUntil_of_used (used : budget.toNat ≤ cycles) :
    runUntil budget cycles c = (.ok ⟨cycles, false⟩, c) := by
  rw [runUntil, if_neg (by omega)]

/-- The loop ends when a step fails. -/
lemma runUntil_of_error {x : IllegalOpcode} (left : cycles < budget.toNat)
    (failed : c.step.1.cost = .error x) :
    runUntil budget cycles c = (.error x, c.step.2) := by
  rw [runUntil, if_pos left]
  simp only [failed]

/-- The loop ends when a step costs nothing. -/
lemma runUntil_of_free (left : cycles < budget.toNat) (free : c.step.1.cost = .ok 0) :
    runUntil budget cycles c = (.ok ⟨cycles, true⟩, c.step.2) := by
  rw [runUntil, if_pos left]
  simp only [free]

/-- The loop goes on after a step that was charged. -/
lemma runUntil_of_charged {n : ℕ} (left : cycles < budget.toNat)
    (cost : c.step.1.cost = .ok (n + 1)) :
    runUntil budget cycles c = runUntil budget (spend cycles (n + 1)) c.step.2 := by
  rw [runUntil, if_pos left]
  simp only [cost]

/-- A step that is charged uses up a part of the budget. -/
lemma sub_spend_lt {n : ℕ} (left : cycles < budget.toNat) (dear : 0 < n) :
    budget.toNat - spend cycles n < budget.toNat - cycles := by
  have largest := budget.toNat_lt
  simp only [spend, maxFrameCycles]
  omega

/-- One round of the loop, after which `next` goes on. The frame ends early only if the step was
free and the processor is suspended. -/
def frameRound (budget : UInt32)
    (next : ℕ → Console → Except IllegalOpcode FrameSummary × Console) (cycles : ℕ) (c : Console) :
    Except IllegalOpcode FrameSummary × Console :=
  if cycles < budget.toNat then
    match c.step.1.cost with
    | .error x => (.error x, c.step.2)
    | .ok n =>
      if n = 0 ∧ c.step.2.machine.cpu.mode ≠ .running then (.ok ⟨cycles, true⟩, c.step.2)
      else next (spend cycles n) c.step.2
  else (.ok ⟨cycles, false⟩, c)

/-- The loop goes round by round. -/
lemma runUntil_eq_frameRound (budget : UInt32) (cycles : ℕ) (c : Console) :
    runUntil budget cycles c = frameRound budget (runUntil budget) cycles c := by
  unfold frameRound
  by_cases left : cycles < budget.toNat
  · rw [if_pos left]
    cases cost : c.step.1.cost with
    | error x => exact runUntil_of_error left cost
    | ok n =>
      rcases cost_step cost with ⟨rfl, asleep⟩ | ⟨dear, -⟩
      · rw [runUntil_of_free left cost]
        exact (if_pos ⟨rfl, asleep⟩).symm
      · obtain ⟨n, rfl⟩ := Nat.exists_eq_succ_of_ne_zero (Nat.ne_zero_of_lt dear)
        rw [runUntil_of_charged left cost]
        exact (if_neg fun free => Nat.succ_ne_zero n free.1).symm
  · rw [if_neg left]
    exact runUntil_of_used (Nat.le_of_not_lt left)

/-- **The loop of a frame is determined by its rounds.** No other function goes round by round in
the same way, with the test of the processor's mode after a free step. -/
theorem eq_runUntil_iff {f : ℕ → Console → Except IllegalOpcode FrameSummary × Console} :
    f = runUntil budget ↔ ∀ cycles c, f cycles c = frameRound budget f cycles c := by
  constructor
  · rintro rfl
    exact runUntil_eq_frameRound budget
  · intro rounds
    funext cycles c
    -- Each round that does not end the frame uses up a part of the budget.
    induction rest : budget.toNat - cycles using Nat.strong_induction_on generalizing cycles c with
    | _ _ ih =>
    subst rest
    rw [rounds cycles c, runUntil_eq_frameRound]
    unfold frameRound
    by_cases left : cycles < budget.toNat
    · rw [if_pos left, if_pos left]
      cases cost : c.step.1.cost with
      | error x => rfl
      | ok n =>
        dsimp only
        rcases cost_step cost with ends | ⟨dear, -⟩
        · rw [if_pos ends, if_pos ends]
        · rw [ih _ (sub_spend_lt left (Nat.lt_of_lt_of_le (by decide) dear)) _ _ rfl]
    · rw [if_neg left, if_neg left]

/-- The loop does not see a change that the steps do not see. -/
lemma Unseen.runUntil {change : Console → Console} (h : Unseen change) (budget : UInt32)
    (cycles : ℕ) (c : Console) :
    (change c).runUntil budget cycles =
      ((c.runUntil budget cycles).1, change (c.runUntil budget cycles).2) := by
  have same : (change c).step.1 = c.step.1 := by rw [h.step]
  have next : (change c).step.2 = change c.step.2 := by rw [h.step]
  by_cases left : cycles < budget.toNat
  · cases cost : c.step.1.cost with
    | error x =>
      rw [runUntil_of_error left cost, runUntil_of_error left (same ▸ cost), next]
    | ok n =>
      cases n with
      | zero => rw [runUntil_of_free left cost, runUntil_of_free left (same ▸ cost), next]
      | succ n =>
        have less := sub_spend_lt left n.succ_pos
        rw [runUntil_of_charged left cost, runUntil_of_charged left (same ▸ cost), next,
          h.runUntil budget _ c.step.2]
  · rw [runUntil_of_used (Nat.le_of_not_lt left), runUntil_of_used (Nat.le_of_not_lt left)]
termination_by budget.toNat - cycles

end Loop

/-- A loop that begins with `before` cycles spent ends at the first possibility and reports the
cycles up to there. The count that it carries is exact as long as that matters: at its maximum,
every budget is used up. -/
theorem runUntil_spec (budget : UInt32) (before : ℕ) (c : Console)
    (within : before < budget.toNat + 24) :
    ∃ n, IsLeast {n | c.FrameEnds (budget.toNat - before) n} n ∧
      (runUntil budget (min before maxFrameCycles) c).2 = c.steps n ∧
      c.Reports budget.toNat before n (runUntil budget (min before maxFrameCycles) c).1 := by
  have largest : budget.toNat ≤ maxFrameCycles := Nat.le_of_lt_succ budget.toNat_lt
  -- Each step that is charged uses up a part of the budget.
  induction left : budget.toNat - before using Nat.strong_induction_on generalizing before c with
  | _ _ ih =>
  subst left
  by_cases more : before < budget.toNat
  · have exact' : min before maxFrameCycles = before := by omega
    have pos : 0 < budget.toNat - before := by omega
    rw [exact']
    cases cost : c.step.1.cost with
    | error x =>
      rw [runUntil_of_error more cost]
      exact ⟨1, isLeast_frameEnds_one pos (.failed cost), rfl, 0, rfl, cost⟩
    | ok k =>
      have charge := Event.charge_of_ok cost
      cases k with
      | zero =>
        have none : c.spent 1 = 0 := by rw [spent_succ, charge, spent_zero]
        rw [runUntil_of_free more cost]
        refine ⟨1, isLeast_frameEnds_one pos (stopsAt_of_free cost), rfl, ⟨0, rfl, cost⟩, ?_, ?_⟩
        · rwa [none]
        · rw [none, Nat.add_zero]
      | succ k =>
        have cheap := c.charge_step_le
        have going : ¬ c.StopsAt 0 := fun stops => by
          have free := stops.charge_eq_zero
          rw [stepEvent_zero, charge] at free
          cases free
        have spend : spend before (k + 1) = min (before + c.step.1.charge) maxFrameCycles := by
          rw [charge]
          rfl
        obtain ⟨n, least, final, reports⟩ :=
          ih (budget.toNat - (before + c.step.1.charge)) (by omega) (before + c.step.1.charge)
            c.step.2 (by omega) rfl
        rw [runUntil_of_charged more cost, spend]
        rw [← Nat.sub_sub] at least
        exact ⟨n + 1, isLeast_frameEnds_succ pos going least, final, reports.cons⟩
  · have used : budget.toNat ≤ min before maxFrameCycles := by omega
    have none : budget.toNat - before = 0 := by omega
    rw [runUntil_of_used used, none]
    refine ⟨0, ⟨.inl (Nat.zero_le _), fun _ _ => Nat.zero_le _⟩, rfl, ?_, ?_, rfl⟩
    · rw [spent_zero]
      omega
    · rwa [spent_zero]

/-- A frame ends at the first possibility and reports the cycles up to there. -/
theorem runFrame_spec (c : Console) :
    ∃ n, IsLeast {n | c.FrameEnds c.config.frameCycles.toNat n} n ∧ c.runFrame.2 = c.steps n ∧
      c.Reports c.config.frameCycles.toNat 0 n c.runFrame.1 :=
  runUntil_spec c.config.frameCycles 0 c (by omega)

/-- The steps of a frame that are charged are no more than a quarter of its budget. -/
lemma charged_le_of_isLeast {budget n : ℕ} (h : IsLeast {n | c.FrameEnds budget n} n) :
    c.charged n ≤ (budget + 3) / 4 := by
  cases n with
  | zero => exact Nat.zero_le _
  | succ n =>
    -- Before its last step, the frame had not used up its budget.
    have left : c.spent n < budget := by
      by_contra used
      exact absurd (h.2 (.inl (Nat.le_of_not_lt used))) (Nat.not_succ_le_self n)
    have dear := c.four_mul_charged_le n
    have last := c.charged_succ_le n
    omega

end Console

/-- **A frame is the shortest run of steps that uses up its budget or makes no progress.** Every
step that succeeds either costs nothing and leaves the processor suspended, or costs between four
and twenty-four cycles. So a frame ends, and with `S` the exact sum of the cycles of its steps: if
it ends because the processor is suspended, then `S` is below the budget and reported exactly; if it
ends with the budget used up, then the budget is exceeded by less than twenty-four cycles, and `S`
is reported up to the largest count. -/
theorem runFrame_isShortestRun (c : Console) :
    (∀ n, c.step.1.cost = .ok n →
      (n = 0 ∧ (c.step.2.machine.cpu.mode = .halted ∨ c.step.2.machine.cpu.mode = .stopped)) ∨
        (4 ≤ n ∧ n ≤ 24)) ∧
    ∃ n, IsLeast {n | c.FrameEnds c.config.frameCycles.toNat n} n ∧
      c.runFrame.2 = c.steps n ∧
      c.charged n ≤ (c.config.frameCycles.toNat + 3) / 4 ∧
      match c.runFrame.1 with
      | .error x => ∃ k, n = k + 1 ∧ (c.stepEvent k).cost = .error x
      | .ok ⟨cycles, true⟩ =>
        (∃ k, n = k + 1 ∧ (c.stepEvent k).cost = .ok 0) ∧
          c.spent n < c.config.frameCycles.toNat ∧ cycles = c.spent n
      | .ok ⟨cycles, false⟩ =>
        c.config.frameCycles.toNat ≤ c.spent n ∧
          c.spent n < c.config.frameCycles.toNat + 24 ∧ cycles = min (c.spent n) (2 ^ 32 - 1) := by
  constructor
  · intro n cost
    rcases Console.cost_step cost with ⟨free, asleep⟩ | dear
    · refine .inl ⟨free, ?_⟩
      cases mode : c.step.2.machine.cpu.mode with
      | running => exact absurd mode asleep
      | halted => exact .inl rfl
      | stopped => exact .inr rfl
    · exact .inr dear
  · obtain ⟨n, least, final, reports⟩ := c.runFrame_spec
    refine ⟨n, least, final, Console.charged_le_of_isLeast least, ?_⟩
    match result : c.runFrame.1 with
    | .error x | .ok ⟨cycles, true⟩ | .ok ⟨cycles, false⟩ =>
      simpa [Console.Reports, Console.maxFrameCycles, result] using reports

/-- A console whose program is a `HALT`, after its first step. -/
def haltedAtEntry : Console :=
  { Console.powerOn {} with
    machine := { Machine.powerOn with memory := Memory.powerOn.write 0x0100 0x76 } }.step.2

/-- The next step of the halted console is free, and the processor is suspended after it. -/
theorem runFrame_isShortestRun_halted :
    haltedAtEntry.step.1.cost = .ok 0 ∧
      (haltedAtEntry.step.2.machine.cpu.mode = .halted ∨
        haltedAtEntry.step.2.machine.cpu.mode = .stopped) := by
  have free : haltedAtEntry.step.1.cost = .ok 0 := by decide +kernel
  rcases (runFrame_isShortestRun haltedAtEntry).1 0 free with ⟨-, asleep⟩ | ⟨dear, -⟩
  · exact ⟨free, asleep⟩
  · cases dear

end GameBoy
