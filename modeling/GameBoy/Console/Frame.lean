import GameBoy.Console.Basic

/-!
# Frames

A frame is a run of steps with a budget of clock cycles. It ends when the budget is used up, which
the last instruction may overshoot, or before that when the processor is suspended or reaches an
opcode without a meaning. Every step that does not end the frame takes some cycles, so a frame is
finite.
-/

namespace GameBoy

/-- What a frame has to report. -/
structure FrameSummary where
  /-- The clock cycles that were spent. -/
  cycles : Nat
  /-- The frame ended early because the processor is suspended. -/
  suspended : Bool
  deriving DecidableEq, Repr

namespace Console

/-- The largest count of cycles that a frame reports. -/
def maxFrameCycles : Nat := 0xFFFFFFFF

/-- Adds the cycles of a step to those spent before; the count stays at its maximum. -/
def spend (spent cycles : Nat) : Nat := min (spent + cycles) maxFrameCycles

/-- Runs steps until `spent` reaches the budget, the processor is suspended, or a step fails. -/
def runUntil (budget : UInt32) (spent : Nat) (c : Console) :
    Except IllegalOpcode FrameSummary × Console :=
  if spent < budget.toNat then
    match c.step with
    | (event, c) =>
      match event.cost with
      | .error e => (.error e, c)
      | .ok 0 => (.ok ⟨spent, true⟩, c)
      | .ok (n + 1) => runUntil budget (spend spent (n + 1)) c
  else (.ok ⟨spent, false⟩, c)
termination_by budget.toNat - spent
decreasing_by
  have := budget.toNat_lt
  simp only [spend, maxFrameCycles]
  omega

/-- Runs a frame. -/
def runFrame (c : Console) : Except IllegalOpcode FrameSummary × Console :=
  runUntil c.config.frameCycles 0 c

end Console

end GameBoy
