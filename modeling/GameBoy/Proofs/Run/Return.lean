import GameBoy.Proofs.Console.Slicing
import GameBoy.Proofs.Run.Ending

/-!
# Whether a run returns

A run has no measure of its own: it returns because its frames come to the step at which the console
makes no progress any more. They do so if every frame makes a step, since a frame that goes on has
then left fewer steps to that one. A frame without a budget makes none. Such frames leave the
console as it is, and the first of them is collected what was sent before the run, the others
nothing; so there are only two causes for which a run of such frames can end, the limit and a result
that was announced before the run began.
-/

namespace GameBoy

namespace Console

variable {c : Console} {k : ℕ}

/-! ## Frames that make steps -/

/-- A frame fails or finds the processor suspended, the first frame having the number zero. -/
def FrameStops (c : Console) (k : ℕ) : Prop :=
  ∀ f, c.frameResult k = .ok f → f.suspended

/-- Frames that make steps come to a step without progress after no more frames than steps. -/
lemma exists_frameStops (positive : 0 < c.config.frameCycles.toNat) (stops : c.StopsAt k) :
    ∃ j ≤ k, c.FrameStops j := by
  induction k using Nat.strong_induction_on generalizing c with
  | _ k ih =>
  have run := c.frameRun
  cases frame : c.runFrame with
  | mk result d =>
  have first : c.frameResult 0 = result := congrArg Prod.fst frame
  rw [frame] at run
  cases run with
  | failed least error =>
    refine ⟨0, Nat.zero_le k, fun f ok => ?_⟩
    rw [first] at ok
    cases ok
  | suspended least free =>
    refine ⟨0, Nat.zero_le k, fun f ok => ?_⟩
    rw [first] at ok
    rw [← Except.ok.inj ok]
  | @used m going used within =>
    obtain ⟨rest, rfl⟩ := Nat.exists_eq_add_of_le (going k stops)
    have steps : 0 < m := by
      rcases Nat.eq_zero_or_pos m with rfl | steps
      · rw [spent_zero] at used
        omega
      · exact steps
    have positive' : 0 < (c.steps m).config.frameCycles.toNat := by
      rwa [frameCycles_steps]
    obtain ⟨j, early, stops'⟩ := ih rest (by omega) positive' (c.stopsAt_add.1 stops)
    have later : c.frameResult (j + 1) = (c.steps m).frameResult j := by
      rw [frameResult, frames_succ, frame, frameResult]
    refine ⟨j + 1, by omega, fun f ok => stops' f ?_⟩
    rw [← later, ok]

/-! ## Frames that make no step -/

section NoBudget

variable (zero : c.config.frameCycles = 0)
include zero

/-- A frame without a budget makes no step and finds nothing. -/
lemma runFrame_of_noBudget : c.runFrame = (.ok ⟨0, false⟩, c) :=
  runUntil_of_used (by rw [zero]; rfl)

lemma frameResult_of_noBudget : c.frameResult k = .ok ⟨0, false⟩ := by
  have fixed : c.runFrame.2 = c := by rw [runFrame_of_noBudget zero]
  rw [frameResult, frames, Function.iterate_fixed fixed, runFrame_of_noBudget zero]

/-- All that frames without a budget have to show is the output from before. -/
lemma transcript_of_noBudget : c.transcript (k + 1) = Utf8.decode c.serialOutput.toList := by
  have collected : c.runFrame.2.clearSerial = c.clearSerial := by rw [runFrame_of_noBudget zero]
  have first : c.chunk 0 = c.serialOutput := by
    change c.runFrame.2.serialOutput = _
    rw [runFrame_of_noBudget zero]
  have nothing (j : ℕ) : c.chunk (j + 1) = #[] := by
    have empty : c.clearSerial.runFrame = (.ok ⟨0, false⟩, c.clearSerial) :=
      runFrame_of_noBudget zero
    have polled : c.polled (j + 1) = c.clearSerial := by
      rw [Console.polled, Function.iterate_succ_apply, collected]
      refine Function.iterate_fixed ?_ j
      rw [empty]
      rfl
    rw [chunk, polled, empty]
    rfl
  induction k with
  | zero =>
    rw [transcript, chunks_succ, List.flatMap_append, List.flatMap_singleton, first]
    rfl
  | succ k ih =>
    rw [transcript, chunks_succ, List.flatMap_append, List.flatMap_singleton, nothing]
    exact (List.append_nil _).trans ih

end NoBudget

end Console

namespace Run

variable {s : Settings} {c : Console} {k n : ℕ}

/-- A run returns exactly if there is a cause at one of its frames. -/
lemma isSome_finish?_iff :
    (finish? s n [] (start s c)).isSome ↔ ∃ k < n, ∃ result, EndsAt s c k result := by
  have account := finish?_trail s c n 0 []
  rw [show trail s c 0 = start s c from rfl, Nat.zero_add] at account
  generalize finish? s n [] (start s c) = result at account
  cases result with
  | none =>
    refine ⟨fun none => (Bool.noConfusion none), ?_⟩
    rintro ⟨k, below, result, ends⟩
    exact absurd ends (account k (Nat.zero_le k) below result)
  | some report =>
    obtain ⟨k, -, below, -, ends⟩ := account
    exact ⟨fun _ => ⟨k, below, _, ends.cause⟩, fun _ => rfl⟩

/-- A frame that fails or finds the processor suspended ends a run, if not for another cause. -/
lemma exists_endsAt_of_frameStops (stops : c.FrameStops k) : ∃ result, EndsAt s c k result := by
  cases frame : c.frameResult k with
  | error x => exact ⟨_, .error frame⟩
  | ok f =>
    by_cases silent : Silent s c k
    · exact ⟨_, .suspended frame silent (stops f frame)⟩
    · exact exists_endsAt_of_not_silent frame silent

/-- A run is not silent if somebody listens and the text so far announces a result. -/
lemma not_silent_iff :
    ¬ Silent s c k ↔ s.stopOnResult ∧ Verdict.ofText? (c.transcript (k + 1)) ≠ none := by
  rw [Silent, Classical.not_imp, Verdict.ofText?_eq]
  refine and_congr_right fun _ => ?_
  split_ifs with failure success
  · exact iff_of_true (fun silent => silent.1 failure) (by simp)
  · exact iff_of_true (fun silent => silent.2 success) (by simp)
  · exact iff_of_false (fun announced => announced ⟨failure, success⟩) (fun none => none rfl)

/-- What can end a run of frames without a budget. -/
lemma exists_endsAt_iff_of_noBudget (zero : c.config.frameCycles = 0) :
    (∃ k result, EndsAt s c k result) ↔
      s.frameLimit ≠ none ∨
        (s.stopOnResult ∧ Verdict.ofText? (Utf8.decode c.serialOutput.toList) ≠ none) := by
  have frame (k : ℕ) : c.frameResult k = .ok ⟨0, false⟩ := Console.frameResult_of_noBudget zero
  have heard (k : ℕ) : ¬ Silent s c k ↔
      s.stopOnResult ∧ Verdict.ofText? (Utf8.decode c.serialOutput.toList) ≠ none := by
    rw [not_silent_iff, Console.transcript_of_noBudget zero]
  constructor
  · rintro ⟨k, result, ends⟩
    by_contra neither
    obtain ⟨unlimited, unheard⟩ := not_or.1 neither
    have silent : Silent s c k := not_not.1 fun loud => unheard ((heard k).1 loud)
    refine not_endsAt (frame k) silent Bool.false_ne_true (fun l limit _ => ?_) result ends
    exact unlimited (by rw [limit]; exact Option.some_ne_none l)
  · rintro (limited | announced)
    · obtain ⟨l, limit⟩ := Option.ne_none_iff_exists'.1 limited
      exact ⟨l.toNat, exists_endsAt_of_limit limit (Nat.le_succ _)⟩
    · exact ⟨0, exists_endsAt_of_not_silent (frame 0) ((heard 0).2 announced)⟩

end Run

/-- **When a run returns.** Let the steps of a console come to one that fails or finds the processor
suspended, with `k` steps before it. If the frames have a budget, then a run returns within `k + 1`
frames, whatever its other settings are. If they have none, then a run returns only for a cause that
has nothing to do with the program: it has a limit, or it listens for results and one was announced
before it began. -/
theorem run_returns_iff (s : Settings) (c : Console) {k : ℕ} (stops : c.StopsAt k) :
    (c.config.frameCycles ≠ 0 → (Run.finish? s (k + 1) [] (Run.start s c)).isSome) ∧
      ((∃ n, (Run.finish? s n [] (Run.start s c)).isSome) ↔
        c.config.frameCycles ≠ 0 ∨ s.frameLimit ≠ none ∨
          (s.stopOnResult ∧ Verdict.ofText? (Utf8.decode c.serialOutput.toList) ≠ none)) := by
  have budgeted (budget : c.config.frameCycles ≠ 0) :
      (Run.finish? s (k + 1) [] (Run.start s c)).isSome := by
    have positive : 0 < c.config.frameCycles.toNat :=
      Nat.pos_of_ne_zero fun zero => budget (UInt32.toNat_inj.1 zero)
    obtain ⟨j, early, last⟩ := Console.exists_frameStops positive stops
    have cause : ∃ result, Run.EndsAt s c j result := Run.exists_endsAt_of_frameStops last
    exact Run.isSome_finish?_iff.2 ⟨j, Nat.lt_succ_of_le early, cause⟩
  refine ⟨budgeted, ?_⟩
  by_cases zero : c.config.frameCycles = 0
  · have cause : (∃ n, (Run.finish? s n [] (Run.start s c)).isSome) ↔
        ∃ k result, Run.EndsAt s c k result := by
      simp only [Run.isSome_finish?_iff]
      constructor
      · rintro ⟨n, k, -, ends⟩
        exact ⟨k, ends⟩
      · rintro ⟨k, ends⟩
        exact ⟨k + 1, k, Nat.lt_succ_self k, ends⟩
    rw [cause, Run.exists_endsAt_iff_of_noBudget zero]
    simp [zero]
  · exact iff_of_true ⟨k + 1, budgeted zero⟩ (.inl zero)

/-- A console that has halted is suspended at its first step; a run with a budget returns after one
frame. -/
theorem run_returns_iff_halted :
    haltedAtEntry.StopsAt 0 ∧
      (Run.finish? {} 1 [] (Run.start {} haltedAtEntry)).isSome := by
  have stops : haltedAtEntry.StopsAt 0 := Console.stopsAt_of_free (by decide +kernel)
  exact ⟨stops, (run_returns_iff {} haltedAtEntry stops).1 (by decide)⟩

/-- The same console with frames that have no budget: its first step finds the processor suspended,
and no number of frames lets the run return. -/
theorem run_never_returns :
    (haltedAtEntry.withBudget 0).StopsAt 0 ∧
      ∀ n, Run.finish? { console := { frameCycles := 0 } } n []
        (Run.start { console := { frameCycles := 0 } } (haltedAtEntry.withBudget 0)) = none := by
  have stops : (haltedAtEntry.withBudget 0).StopsAt 0 :=
    Console.stopsAt_of_free (by decide +kernel)
  refine ⟨stops, fun n => Option.not_isSome_iff_eq_none.1 fun returned => ?_⟩
  obtain ⟨k, -, ends⟩ := Run.isSome_finish?_iff.1 returned
  rcases (Run.exists_endsAt_iff_of_noBudget rfl).1 ⟨k, ends⟩ with limited | ⟨-, announced⟩
  · exact limited rfl
  · exact announced (by decide +kernel)

end GameBoy
