import GameBoy.Proofs.Console.Budget
import GameBoy.Proofs.Serial.Backlog

/-!
# Frames as slices of a run

A host that repeats frames cuts the steps of the console into slices, and the budget decides where.
`Console.play?` repeats frames until the processor is suspended or a step fails; between them, the
host either collects the serial output or leaves it where it is. `Playback.Shows` says what it has
seen then: the steps up to the first that makes no progress, whatever the budget is.
-/

namespace GameBoy

/-- Why a host stops repeating frames. -/
inductive Ending where
  /-- The processor is suspended. -/
  | suspended
  /-- There is no instruction to execute. -/
  | illegal (x : IllegalOpcode)
  deriving DecidableEq, Repr

/-- What the last step costs. -/
def Ending.cost : Ending → Except IllegalOpcode ℕ
  | suspended => .ok 0
  | illegal x => .error x

lemma Ending.cost_injective : Function.Injective Ending.cost := by
  intro d e same
  cases d <;> cases e <;> cases same <;> rfl

/-- What a host has after its last frame. -/
structure Playback where
  /-- Why it stopped. -/
  ending : Ending
  /-- The console. -/
  console : Console
  /-- The serial output of all frames. -/
  output : Array UInt8
  /-- The sum of the cycles that the frames reported. A frame that fails reports none. -/
  cycles : ℕ

namespace Console

/-- The console with another budget for its frames. -/
def withBudget (c : Console) (f : UInt32) : Console :=
  { c with config := { c.config with frameCycles := f } }

/-- What a host collects after a frame, and the console that it goes on with. -/
def visit (collects : Bool) (c : Console) : Array UInt8 × Console :=
  if collects then (c.serialOutput, c.clearSerial) else (#[], c)

/-- Repeats frames until the processor is suspended or a step fails, at most `n` of them. -/
def play? (collects : Bool) : ℕ → Console → Option Playback
  | 0, _ => none
  | n + 1, c =>
    let (result, c) := c.runFrame
    let (bytes, c) := c.visit collects
    match result with
    | .error x => some ⟨.illegal x, c, bytes, 0⟩
    | .ok ⟨cycles, true⟩ => some ⟨.suspended, c, bytes, cycles⟩
    | .ok ⟨cycles, false⟩ =>
      (play? collects n c).map fun p =>
        { p with output := bytes ++ p.output, cycles := cycles + p.cycles }

/-! ## What the steps do not see -/

/-- Interrupts are dispatched in the same way whatever the budget is. -/
lemma serviceInterrupt_withBudget (c : Console) (f : UInt32) :
    (c.withBudget f).serviceInterrupt =
      (c.serviceInterrupt.1, c.serviceInterrupt.2.withBudget f) := by
  unfold serviceInterrupt
  by_cases allowed : c.config.serviceInterrupts
  · have allowed' : (c.withBudget f).config.serviceInterrupts := allowed
    rw [if_pos allowed', if_pos allowed]
    rfl
  · have refused : ¬ (c.withBudget f).config.serviceInterrupts := allowed
    rw [if_neg refused, if_neg allowed]

/-- The steps do not see the budget. -/
theorem unseen_withBudget (f : UInt32) : Unseen (withBudget · f) where
  step c := by
    unfold step
    rw [serviceInterrupt_withBudget]
    match c.serviceInterrupt with
    | (some i, d) => rfl
    | (none, d) => rfl
  mode _ := rfl

/-- The budget stays as it is. -/
lemma frameCycles_steps (c : Console) (n : ℕ) :
    (c.steps n).config.frameCycles = c.config.frameCycles := by
  have same : (c.withBudget c.config.frameCycles).steps n =
      (c.steps n).withBudget c.config.frameCycles := (unseen_withBudget _).steps c n
  change c.steps n = _ at same
  rw [same]
  rfl

variable {collects : Bool} {c : Console}

lemma visit_withBudget (f : UInt32) :
    (c.withBudget f).visit collects =
      ((c.visit collects).1, (c.visit collects).2.withBudget f) := by
  cases collects <;> rfl

lemma config_visit : (c.visit collects).2.config = c.config := by
  cases collects <;> rfl

/-- What was collected in front of what is left is what there was. -/
lemma withBacklog_visit : (c.visit collects).2.withBacklog (c.visit collects).1 = c := by
  cases collects with
  | true => exact c.withBacklog_clearSerial
  | false =>
    change { c with machine := { c.machine with memory := { c.machine.memory with
      io := { c.machine.memory.io with serialOutput := #[] ++ c.serialOutput } } } } = c
    rw [Array.empty_append]
    rfl

/-- A visit now and another after some steps collect what one visit after the steps collects. -/
lemma visit_steps (n : ℕ) :
    (c.steps n).visit collects =
      ((c.visit collects).1 ++ (((c.visit collects).2.steps n).visit collects).1,
        (((c.visit collects).2.steps n).visit collects).2) := by
  cases collects with
  | true =>
    have same := (unseen_withBacklog c.serialOutput).steps c.clearSerial n
    rw [withBacklog_clearSerial] at same
    rw [same]
    rfl
  | false =>
    change (#[], c.steps n) = (#[] ++ #[], c.steps n)
    rfl

lemma stepEvent_visit (n : ℕ) : (c.visit collects).2.stepEvent n = c.stepEvent n := by
  have same := (unseen_withBacklog (c.visit collects).1).stepEvent (c.visit collects).2 n
  rw [withBacklog_visit] at same
  exact same.symm

lemma spent_visit (n : ℕ) : (c.visit collects).2.spent n = c.spent n := by
  have same := (unseen_withBacklog (c.visit collects).1).spent (c.visit collects).2 n
  rw [withBacklog_visit] at same
  exact same.symm

lemma stopsAt_visit {n : ℕ} : (c.visit collects).2.StopsAt n ↔ c.StopsAt n := by
  have same : _ ↔ (c.visit collects).2.StopsAt n := (unseen_withBacklog (c.visit collects).1).stopsAt
  rw [withBacklog_visit] at same
  exact same.symm

/-! ## The outcomes of a frame -/

/-- The outcomes of a frame, by the first step of the console that makes no progress. -/
inductive FrameRun (c : Console) : Except IllegalOpcode FrameSummary × Console → Prop
  /-- That step fails in the frame. -/
  | failed {n : ℕ} {x : IllegalOpcode} (first : IsLeast {k | c.StopsAt k} n)
      (error : (c.stepEvent n).cost = .error x) : FrameRun c (.error x, c.steps (n + 1))
  /-- That step finds the processor suspended in the frame. -/
  | suspended {n : ℕ} (first : IsLeast {k | c.StopsAt k} n)
      (free : (c.stepEvent n).cost = .ok 0) : FrameRun c (.ok ⟨c.spent n, true⟩, c.steps (n + 1))
  /-- That step is not a part of the frame. -/
  | used {n : ℕ} (going : ∀ k, c.StopsAt k → n ≤ k) (used : c.config.frameCycles.toNat ≤ c.spent n)
      (within : c.spent n < c.config.frameCycles.toNat + 24) :
      FrameRun c (.ok ⟨min (c.spent n) maxFrameCycles, false⟩, c.steps n)

/-- A frame ends no later than after a step that makes no progress. -/
lemma le_succ_of_stopsAt {budget n k : ℕ} (least : IsLeast {n | c.FrameEnds budget n} n)
    (stops : c.StopsAt k) : n ≤ k + 1 :=
  least.2 (.inr ⟨k, rfl, stops⟩)

/-- Every frame has one of the outcomes. -/
theorem frameRun (c : Console) : c.FrameRun c.runFrame := by
  obtain ⟨n, least, final, reports⟩ := c.runFrame_spec
  rw [← Prod.mk.eta (p := c.runFrame), final]
  match result : c.runFrame.1 with
  | .error x =>
    rw [result] at reports
    obtain ⟨k, rfl, error⟩ := reports
    exact .failed ⟨.failed error, fun j stops =>
      Nat.le_of_succ_le_succ (le_succ_of_stopsAt least stops)⟩ error
  | .ok ⟨cycles, true⟩ =>
    rw [result] at reports
    obtain ⟨⟨k, rfl, free⟩, -, rfl⟩ := reports
    have total : 0 + c.spent (k + 1) = c.spent k := by
      rw [Nat.zero_add, spent_succ_last, Event.charge_of_ok free, Nat.add_zero]
    rw [total]
    exact .suspended ⟨stopsAt_of_free free, fun j stops =>
      Nat.le_of_succ_le_succ (le_succ_of_stopsAt least stops)⟩ free
  | .ok ⟨cycles, false⟩ =>
    rw [result] at reports
    obtain ⟨used, within, rfl⟩ := reports
    rw [Nat.zero_add] at used within ⊢
    refine .used (fun k stops => ?_) used within
    -- A step without progress at the end of the frame would have been one step too much.
    by_contra before
    obtain rfl : n = k + 1 := by
      have := le_succ_of_stopsAt least stops
      omega
    rw [spent_succ_last, stops.charge_eq_zero] at used
    exact absurd (least.2 (.inl used)) (Nat.not_succ_le_self k)

end Console

/-! ## The outcome of all frames -/

/-- A playback shows the steps of a console up to the first that makes no progress, which has the
number `n`. -/
structure Playback.Shows (p : Playback) (c : Console) (collects : Bool) (n : ℕ) : Prop where
  /-- No step before makes no progress. -/
  first : IsLeast {k | c.StopsAt k} n
  /-- The step is why the host stopped. -/
  cause : (c.stepEvent n).cost = p.ending.cost
  /-- The step is the last, and all output up to it has been collected if any was. -/
  final : (p.output, p.console) = (c.steps (n + 1)).visit collects
  /-- The cycles are those of all steps, unless the frames could not count them. -/
  total : p.ending = .suspended → c.config.frameCycles.toNat ≤ 2 ^ 32 - 24 → p.cycles = c.spent n

section Shows

variable {collects : Bool} {c : Console}

/-- What follows a frame, shown with that frame, is all that the console does. -/
lemma Playback.Shows.cons {p : Playback} {m n : ℕ} (going : ∀ k, c.StopsAt k → m ≤ k)
    (within : c.spent m < c.config.frameCycles.toNat + 24)
    (h : p.Shows ((c.steps m).visit collects).2 collects n) :
    Playback.Shows { p with
      output := ((c.steps m).visit collects).1 ++ p.output
      cycles := min (c.spent m) Console.maxFrameCycles + p.cycles } c collects (m + n) where
  first := by
    refine ⟨c.stopsAt_add.2 (Console.stopsAt_visit.1 h.first.1), fun k stops => ?_⟩
    obtain ⟨j, rfl⟩ := Nat.exists_eq_add_of_le (going k stops)
    have later : ((c.steps m).visit collects).2.StopsAt j :=
      Console.stopsAt_visit.2 (c.stopsAt_add.1 stops)
    exact Nat.add_le_add_left (h.first.2 later) m
  cause := by
    have same : ((c.steps m).visit collects).2.stepEvent n = (c.steps m).stepEvent n :=
      Console.stepEvent_visit n
    rw [Console.stepEvent_add, ← same]
    exact h.cause
  final := by
    rw [Nat.add_assoc, Console.steps_add, Console.visit_steps (c := c.steps m), ← h.final]
  total suspended small := by
    have budget : ((c.steps m).visit collects).2.config.frameCycles = c.config.frameCycles := by
      rw [Console.config_visit, Console.frameCycles_steps]
    have rest := h.total suspended (by rwa [budget])
    have counted : min (c.spent m) Console.maxFrameCycles = c.spent m := by
      unfold Console.maxFrameCycles
      omega
    rw [Console.spent_visit] at rest
    change min (c.spent m) Console.maxFrameCycles + p.cycles = _
    rw [counted, rest, Console.spent_add]

/-- Every playback shows what the console does. -/
theorem shows_of_play {n : ℕ} {p : Playback} (h : c.play? collects n = some p) :
    ∃ k, p.Shows c collects k := by
  induction n generalizing c p with
  | zero => cases h
  | succ n ih =>
    unfold Console.play? at h
    have run := c.frameRun
    generalize c.runFrame = frame at h run
    cases run with
    | @failed k x first error =>
      obtain rfl := Option.some.inj h
      exact ⟨k, first, error, rfl, fun absurd => nomatch absurd⟩
    | @suspended k first free =>
      obtain rfl := Option.some.inj h
      exact ⟨k, first, free, rfl, fun _ _ => rfl⟩
    | @used m going used within =>
      obtain ⟨q, played, rfl⟩ := Option.map_eq_some_iff.1 h
      obtain ⟨k, shows'⟩ := ih played
      exact ⟨m + k, shows'.cons going within⟩

/-- A host that repeats frames comes to the first step that makes no progress, as long as the frames
make steps at all. -/
theorem exists_play {k : ℕ} (positive : 0 < c.config.frameCycles.toNat)
    (first : IsLeast {k | c.StopsAt k} k) : ∃ n, (c.play? collects n).isSome := by
  -- Every frame that uses up its budget leaves fewer steps to that one.
  induction k using Nat.strong_induction_on generalizing c with
  | _ k ih =>
  have run := c.frameRun
  cases frame : c.runFrame with
  | mk result d =>
  rw [frame] at run
  cases run with
  | @failed m x _ error | @suspended m _ free =>
    refine ⟨1, ?_⟩
    rw [Console.play?, frame]
    rfl
  | @used m going used within =>
    obtain ⟨j, rfl⟩ := Nat.exists_eq_add_of_le (going k first.1)
    have steps : 0 < m := by
      rcases Nat.eq_zero_or_pos m with rfl | steps
      · rw [Console.spent_zero] at used
        omega
      · exact steps
    have rest : IsLeast {k | ((c.steps m).visit collects).2.StopsAt k} j := by
      refine ⟨Console.stopsAt_visit.2 (c.stopsAt_add.1 first.1), fun i stops => ?_⟩
      have := first.2 (c.stopsAt_add.2 (Console.stopsAt_visit.1 stops))
      omega
    have positive' : 0 < ((c.steps m).visit collects).2.config.frameCycles.toNat := by
      rwa [Console.config_visit, Console.frameCycles_steps]
    obtain ⟨n, played⟩ := ih j (by omega) positive' rest
    refine ⟨n + 1, ?_⟩
    rw [Console.play?, frame]
    simpa only [Option.isSome_map] using played

/-- Playbacks of a console that differ in the budget only show the same. -/
lemma Playback.Shows.agree {f g : UInt32} {p q : Playback} {m n : ℕ}
    (hp : p.Shows (c.withBudget f) collects m) (hq : q.Shows (c.withBudget g) collects n) :
    q.ending = p.ending ∧ q.console.machine = p.console.machine ∧ q.output = p.output ∧
      (p.ending = .suspended → f.toNat ≤ 2 ^ 32 - 24 → g.toNat ≤ 2 ^ 32 - 24 →
        q.cycles = p.cycles) := by
  have unseen := Console.unseen_withBudget
  have last : m = n := by
    refine hp.first.unique ?_
    simpa only [(unseen _).stopsAt] using hq.first
  subst last
  have final (b : UInt32) : ((c.withBudget b).steps (m + 1)).visit collects =
      (((c.steps (m + 1)).visit collects).1,
        ((c.steps (m + 1)).visit collects).2.withBudget b) := by
    rw [(unseen b).steps, Console.visit_withBudget]
  obtain ⟨outputP, consoleP⟩ := Prod.mk.inj (hp.final.trans (final f))
  obtain ⟨outputQ, consoleQ⟩ := Prod.mk.inj (hq.final.trans (final g))
  have ending : q.ending = p.ending := by
    apply Ending.cost_injective
    rw [← hp.cause, ← hq.cause, (unseen f).stepEvent, (unseen g).stepEvent]
  refine ⟨ending, ?_, ?_, fun suspended smallF smallG => ?_⟩
  · rw [consoleP, consoleQ]
    rfl
  · rw [outputP, outputQ]
  · rw [hp.total suspended smallF, hq.total (ending.trans suspended) smallG, (unseen f).spent,
      (unseen g).spent]

end Shows

/-- **Slicing does not change what is played.** If a host that repeats frames with one budget comes
to an end, then so does a host with any other budget that lets frames make steps: it stops for the
same reason, with the same machine, after the same serial output, and if it stops because the
processor is suspended, after the same number of cycles, unless a frame could not count them. -/
theorem play_withBudget (c : Console) (collects : Bool) {f g : UInt32} (positive : 1 ≤ g) {n : ℕ}
    {p : Playback} (h : (c.withBudget f).play? collects n = some p) :
    ∃ k q, (c.withBudget g).play? collects k = some q ∧ q.ending = p.ending ∧
      q.console.machine = p.console.machine ∧ q.output = p.output ∧
      (p.ending = .suspended → f.toNat ≤ 2 ^ 32 - 24 → g.toNat ≤ 2 ^ 32 - 24 →
        q.cycles = p.cycles) := by
  obtain ⟨m, hp⟩ := shows_of_play h
  have first : IsLeast {k | (c.withBudget g).StopsAt k} m := by
    have first := hp.first
    simp only [(Console.unseen_withBudget _).stopsAt] at first ⊢
    exact first
  have positive' : 0 < (c.withBudget g).config.frameCycles.toNat :=
    UInt32.le_iff_toNat_le.1 positive
  obtain ⟨k, played⟩ : ∃ k, ((c.withBudget g).play? collects k).isSome :=
    exists_play positive' first
  obtain ⟨q, played⟩ := Option.isSome_iff_exists.1 played
  obtain ⟨_, hq⟩ := shows_of_play played
  exact ⟨k, q, played, hp.agree hq⟩

/-- A program that sends a letter and halts, in frames of one instruction each and in frames for a
picture. -/
theorem play_withBudget_sending :
    ∃ k q, ((sendingThen 0x76).withBudget cyclesPerFrame).play? true k = some q ∧
      q.ending = .suspended ∧ q.output = #[0x58] ∧ q.cycles = 44 := by
  have played : (((sendingThen 0x76).withBudget 1).play? true 6).map
      (fun p => (p.ending, p.output, p.cycles)) = some (.suspended, #[0x58], 44) := by
    decide +kernel
  obtain ⟨p, slices, shown⟩ := Option.map_eq_some_iff.1 played
  obtain ⟨ending, output, cycles⟩ : p.ending = .suspended ∧ p.output = #[0x58] ∧ p.cycles = 44 := by
    simpa only [Prod.mk.injEq] using shown
  obtain ⟨k, q, picture, same, -, sent, total⟩ :=
    play_withBudget (sendingThen 0x76) true (by decide : 1 ≤ cyclesPerFrame) slices
  exact ⟨k, q, picture, same.trans ending, sent.trans output,
    (total ending (by decide) (by decide)).trans cycles⟩

end GameBoy
