import GameBoy.Proofs.Serial.Verdict
import Mathlib.Algebra.Group.Action.Defs

/-!
# Where a run ends

A run repeats frames. Five causes can end it, and several of them can hold of one frame: the frame
fails, the program has reported failure or success, the processor is suspended, or the limit is
reached. `Run.EndsAt` says for each frame of a console that is left alone which of them counts, in
terms of the results of the frames and of the text that they have sent, without the run. The main
statement is that a run ends with the first frame for which there is a cause, and what it has
counted then.

The frames are those of `Console.frames`, which nobody interrupts. A run collects the serial output
between them, so that its console is that of `Console.polled`; the two differ in the output only.
-/

namespace GameBoy

namespace Console

variable (c : Console)

/-! ## Frames with and without a collection -/

lemma frames_succ_last (n : ℕ) : c.frames (n + 1) = (c.frames n).runFrame.2 :=
  Function.iterate_succ_apply' _ n c

/-- A frame does not see the serial output. -/
lemma runFrame_clearSerial :
    c.runFrame.1 = c.clearSerial.runFrame.1 ∧
      c.runFrame.2.clearSerial = c.clearSerial.runFrame.2.clearSerial := by
  have same := c.clearSerial.runFrame_withBacklog c.serialOutput
  rw [withBacklog_clearSerial] at same
  rw [same]
  exact ⟨rfl, clearSerial_withBacklog _ _⟩

/-- The console after a number of frames, if the serial output is collected after each. -/
def polled (n : ℕ) : Console := (fun c => c.runFrame.2.clearSerial)^[n] c

lemma polled_succ (n : ℕ) : c.polled (n + 1) = (c.polled n).runFrame.2.clearSerial :=
  Function.iterate_succ_apply' _ n c

/-- Collecting the output changes nothing but the output. -/
lemma clearSerial_polled (n : ℕ) : (c.polled n).clearSerial = (c.frames n).clearSerial := by
  induction n with
  | zero => rfl
  | succ n ih =>
    have left := (c.polled n).runFrame_clearSerial.2
    have right := (c.frames n).runFrame_clearSerial.2
    rw [ih] at left
    rw [polled_succ, frames_succ_last, right, ← left]
    rfl

lemma mode_polled (n : ℕ) : (c.polled n).machine.cpu.mode = (c.frames n).machine.cpu.mode :=
  congrArg (fun d => d.machine.cpu.mode) (c.clearSerial_polled n)

/-- What there is to collect after a frame, the first one having the number zero. -/
def chunk (n : ℕ) : Array UInt8 := (c.polled n).runFrame.2.serialOutput

/-- What there is to collect after each of the first frames. -/
def chunks (n : ℕ) : List (Array UInt8) := (List.range n).map c.chunk

/-- The text of the first frames. Each frame is read as a text of its own. -/
def transcript (n : ℕ) : List Char := (c.chunks n).flatMap fun bytes => Utf8.decode bytes.toList

/-- The result of a frame, the first one having the number zero. -/
def frameResult (n : ℕ) : Except IllegalOpcode FrameSummary := (c.frames n).runFrame.1

/-- The cycles that the first frames have reported. -/
def reported (n : ℕ) : ℕ :=
  ∑ k ∈ Finset.range n, (c.frameResult k).toOption.elim 0 FrameSummary.cycles

/-- The cycles of a frame fit into 32 bits. -/
lemma cycles_le_of_runFrame {c : Console} {f : FrameSummary} (ok : c.runFrame.1 = .ok f) :
    f.cycles ≤ 2 ^ 32 - 1 := by
  obtain ⟨n, -, -, reports⟩ := c.runFrame_spec
  have budget := c.config.frameCycles.toNat_lt
  rw [ok] at reports
  match f with
  | ⟨cycles, true⟩ =>
    obtain ⟨-, within, same⟩ := reports
    change cycles ≤ _
    omega
  | ⟨cycles, false⟩ =>
    obtain ⟨-, -, same⟩ := reports
    exact same.trans_le (Nat.min_le_right _ _)

lemma reported_le (n : ℕ) : c.reported n ≤ n * (2 ^ 32 - 1) := by
  have each : ∀ k ∈ Finset.range n,
      (c.frameResult k).toOption.elim 0 FrameSummary.cycles ≤ 2 ^ 32 - 1 := by
    intro k _
    cases frame : c.frameResult k with
    | error x => exact Nat.zero_le _
    | ok f => exact cycles_le_of_runFrame frame
  have sum := Finset.sum_le_card_nsmul (Finset.range n) _ _ each
  rwa [Finset.card_range, smul_eq_mul] at sum

lemma runFrame_polled (n : ℕ) : (c.polled n).runFrame.1 = c.frameResult n := by
  rw [frameResult, (c.polled n).runFrame_clearSerial.1, clearSerial_polled,
    ← (c.frames n).runFrame_clearSerial.1]

lemma chunks_succ (n : ℕ) : c.chunks (n + 1) = c.chunks n ++ [c.chunk n] := by
  rw [chunks, List.range_succ, List.map_append, chunks]
  rfl

lemma reported_succ {n : ℕ} {f : FrameSummary} (ok : c.frameResult n = .ok f) :
    c.reported (n + 1) = c.reported n + f.cycles := by
  rw [reported, Finset.sum_range_succ, ok]
  rfl

end Console

namespace Run

variable {s : Settings} {c : Console} {k : ℕ}

/-! ## The causes -/

/-- The program has not announced a result by the end of a frame, or nobody listens. -/
def Silent (s : Settings) (c : Console) (k : ℕ) : Prop :=
  s.stopOnResult → ¬ "Failed".toList <:+: c.transcript (k + 1) ∧
    ¬ "Passed".toList <:+: c.transcript (k + 1)

/-- The cause that ends a run with a frame, the first frame having the number zero. A cause counts
only if none of those before it does. -/
inductive EndsAt (s : Settings) (c : Console) (k : ℕ) : Except IllegalOpcode Outcome → Prop
  /-- The frame fails. -/
  | error {x : IllegalOpcode} (frame : c.frameResult k = .error x) : EndsAt s c k (.error x)
  /-- The text contains the word for failure. -/
  | failed {f : FrameSummary} (frame : c.frameResult k = .ok f) (watched : s.stopOnResult)
      (failure : "Failed".toList <:+: c.transcript (k + 1)) : EndsAt s c k (.ok .failed)
  /-- The text contains the word for success. -/
  | passed {f : FrameSummary} (frame : c.frameResult k = .ok f) (watched : s.stopOnResult)
      (noFailure : ¬ "Failed".toList <:+: c.transcript (k + 1))
      (success : "Passed".toList <:+: c.transcript (k + 1)) : EndsAt s c k (.ok .passed)
  /-- The processor is suspended. -/
  | suspended {f : FrameSummary} (frame : c.frameResult k = .ok f) (silent : Silent s c k)
      (asleep : f.suspended) : EndsAt s c k (.ok .suspended)
  /-- As many frames were made as the limit allows. -/
  | limit {f : FrameSummary} {l : UInt64} (frame : c.frameResult k = .ok f)
      (silent : Silent s c k) (awake : ¬ f.suspended) (limit : s.frameLimit = some l)
      (reached : l.toNat ≤ k + 1) : EndsAt s c k (.ok .frameLimitReached)

/-- A result that was announced ends a run. -/
lemma exists_endsAt_of_not_silent {f : FrameSummary} (frame : c.frameResult k = .ok f)
    (heard : ¬ Silent s c k) : ∃ result, EndsAt s c k result := by
  obtain ⟨watched, announced⟩ := Classical.not_imp.1 heard
  by_cases failure : "Failed".toList <:+: c.transcript (k + 1)
  · exact ⟨_, .failed frame watched failure⟩
  · have success : "Passed".toList <:+: c.transcript (k + 1) := by
      by_contra none
      exact announced ⟨failure, none⟩
    exact ⟨_, .passed frame watched failure success⟩

/-- A frame at the limit ends a run, if not for another cause. -/
lemma exists_endsAt_of_limit {l : UInt64} (limit : s.frameLimit = some l)
    (reached : l.toNat ≤ k + 1) : ∃ result, EndsAt s c k result := by
  cases frame : c.frameResult k with
  | error x => exact ⟨_, .error frame⟩
  | ok f =>
    by_cases silent : Silent s c k
    · by_cases asleep : f.suspended
      · exact ⟨_, .suspended frame silent asleep⟩
      · exact ⟨_, .limit frame silent asleep limit reached⟩
    · exact exists_endsAt_of_not_silent frame silent

/-- A frame does not end a run if it succeeds, nothing is announced, the processor is awake, and the
limit is further on. -/
lemma not_endsAt {f : FrameSummary} (frame : c.frameResult k = .ok f) (silent : Silent s c k)
    (awake : ¬ f.suspended) (further : ∀ l, s.frameLimit = some l → ¬ l.toNat ≤ k + 1)
    (result : Except IllegalOpcode Outcome) : ¬ EndsAt s c k result := by
  intro ends
  cases ends with
  | error frame' =>
    rw [frame] at frame'
    cases frame'
  | failed _ watched failure => exact (silent watched).1 failure
  | passed _ watched _ success => exact (silent watched).2 success
  | suspended frame' _ asleep =>
    rw [frame] at frame'
    obtain rfl := Except.ok.inj frame'
    exact awake asleep
  | limit _ _ _ limit reached => exact further _ limit reached

/-! ## The run along the frames -/

/-- The run that has made some frames. -/
def trail (s : Settings) (c : Console) (k : ℕ) : Run where
  console := c.polled k
  monitor := ((Monitor.start s.sink).consumeAll (c.chunks k)).2
  frames := k
  cycles := c.reported k

lemma transcript_trail : (trail s c k).monitor.transcript = c.transcript k := by
  rw [trail, Monitor.transcript_consumeAll]
  rfl

lemma consumeAll_chunks_succ :
    ((Monitor.start s.sink).consumeAll (c.chunks (k + 1))).2 =
      (((Monitor.start s.sink).consumeAll (c.chunks k)).2.consume (c.chunk k)).2 := by
  rw [Console.chunks_succ, Monitor.consumeAll_append]
  rfl

lemma after_trail {f : FrameSummary} (frame : c.frameResult k = .ok f) :
    (trail s c k).after f = trail s c (k + 1) := by
  have succ : trail s c (k + 1) =
      { console := (c.polled k).runFrame.2.clearSerial
        monitor := (((Monitor.start s.sink).consumeAll (c.chunks k)).2.consume (c.chunk k)).2
        frames := k + 1
        cycles := c.reported k + f.cycles } := by
    rw [← Console.polled_succ, ← consumeAll_chunks_succ, ← c.reported_succ frame]
    rfl
  rw [succ]
  rfl

/-- What a run hears by the end of a frame. -/
inductive Hears (s : Settings) (c : Console) (k : ℕ) : Option Verdict → Prop
  | failed (watched : s.stopOnResult) (failure : "Failed".toList <:+: c.transcript (k + 1)) :
      Hears s c k (some .failed)
  | passed (watched : s.stopOnResult) (noFailure : ¬ "Failed".toList <:+: c.transcript (k + 1))
      (success : "Passed".toList <:+: c.transcript (k + 1)) : Hears s c k (some .passed)
  | silent (silent : Silent s c k) : Hears s c k none

lemma hears_verdict? :
    Hears s c k (if s.stopOnResult then (trail s c (k + 1)).monitor.verdict? else none) := by
  rw [Monitor.verdict?, transcript_trail, Verdict.ofText?_eq]
  split_ifs with watched failure success
  · exact .failed watched failure
  · exact .passed watched failure success
  · exact .silent fun _ => ⟨failure, success⟩
  · exact .silent fun listening => absurd listening watched

/-- What a run says that ends after a number of frames. -/
def closing (c : Console) (k : ℕ) (o : Outcome) : String :=
  match o with
  | .failed | .passed => s!"Program reported {o.name} after {k} frames"
  | .suspended =>
    let mode := (c.frames k).machine.cpu.mode.name
    s!"CPU suspended in {mode} after {k} frames ({c.reported k} cycles)"
  | .frameLimitReached => s!"Frame limit of {k} reached ({c.reported k} cycles)"

lemma closing_suspended (c : Console) (k : ℕ) :
    closing c k .suspended =
      let mode := (c.polled k).machine.cpu.mode.name
      s!"CPU suspended in {mode} after {k} frames ({c.reported k} cycles)" := by
  rw [Console.mode_polled]
  rfl

/-- After a frame that has succeeded, a run ends exactly if there is a cause. -/
lemma ending?_trail {f : FrameSummary} (frame : c.frameResult k = .ok f) :
    match ending? s (trail s c (k + 1)) f.suspended with
    | some (o, text) => EndsAt s c k (.ok o) ∧ text = closing c (k + 1) o
    | none => ∀ result, ¬ EndsAt s c k result := by
  unfold ending?
  have heard := hears_verdict? (s := s) (c := c) (k := k)
  generalize (if s.stopOnResult then (trail s c (k + 1)).monitor.verdict? else none) = v at heard
  cases heard with
  | failed watched failure => exact ⟨.failed frame watched failure, rfl⟩
  | passed watched noFailure success => exact ⟨.passed frame watched noFailure success, rfl⟩
  | silent silent =>
    by_cases asleep : f.suspended
    · rw [if_pos asleep]
      exact ⟨.suspended frame silent asleep, (closing_suspended c (k + 1)).symm⟩
    rw [if_neg asleep]
    by_cases limit : s.frameLimit.any fun l => l.toNat ≤ (trail s c (k + 1)).frames
    · obtain ⟨l, bound, reached⟩ := (Option.any_eq_true _ _).1 limit
      simp only [limit, if_true]
      exact ⟨.limit frame silent asleep bound (of_decide_eq_true reached), rfl⟩
    · simp only [limit]
      refine not_endsAt frame silent asleep fun l bound reached => limit ?_
      exact (Option.any_eq_true _ _).2 ⟨l, bound, decide_eq_true reached⟩

/-! ## The account of a run -/

/-- What is true of a finished run that has ended with a frame, the first one having the number
zero. -/
structure EndsWith (s : Settings) (c : Console) (k : ℕ) (report : Report) : Prop where
  /-- The run ended for the cause that counts. -/
  cause : EndsAt s c k report.result
  /-- It has made no frame after that. -/
  console : report.run.console.clearSerial = (c.frames (k + 1)).clearSerial
  /-- It has counted the frames. -/
  frames {o : Outcome} (ok : report.result = .ok o) : report.run.frames = k + 1
  /-- It has counted their cycles. -/
  cycles {o : Outcome} (ok : report.result = .ok o) : report.run.cycles = c.reported (k + 1)
  /-- Its monitor has read the text. -/
  transcript {o : Outcome} (ok : report.result = .ok o) :
    report.run.monitor.transcript = c.transcript (k + 1)
  /-- It says so in the end. -/
  message {o : Outcome} (ok : report.result = .ok o) :
    report.outputs.head? = some (.message (closing c (k + 1) o))
  /-- It has not counted a frame that failed. -/
  uncounted {x : IllegalOpcode} (failed : report.result = .error x) :
    report.run.frames = k ∧ report.run.cycles = c.reported k

/-- A run that fails has nothing to say but that. -/
lemma EndsWith.of_error {report : Report} {x : IllegalOpcode} (failed : report.result = .error x)
    (cause : EndsAt s c k report.result)
    (console : report.run.console.clearSerial = (c.frames (k + 1)).clearSerial)
    (counters : report.run.frames = k ∧ report.run.cycles = c.reported k) :
    EndsWith s c k report := by
  have absurd {o : Outcome} (ok : report.result = .ok o) : False := by
    rw [failed] at ok
    cases ok
  exact ⟨cause, console, fun ok => (absurd ok).elim, fun ok => (absurd ok).elim,
    fun ok => (absurd ok).elim, fun ok => (absurd ok).elim, fun _ => counters⟩

/-- The counters of a run of up to `2 ^ 32` frames fit into 64 bits. -/
lemma EndsWith.counters_lt {report : Report} (ends : EndsWith s c k report) (few : k < 2 ^ 32) :
    report.run.frames < 2 ^ 64 ∧ report.run.cycles < 2 ^ 64 := by
  have room {n : ℕ} (le : n ≤ 2 ^ 32) : c.reported n < 2 ^ 64 :=
    calc c.reported n ≤ n * (2 ^ 32 - 1) := c.reported_le n
      _ ≤ 2 ^ 32 * (2 ^ 32 - 1) := Nat.mul_le_mul_right _ le
      _ < 2 ^ 64 := by decide
  cases result : report.result with
  | error x =>
    obtain ⟨frames, cycles⟩ := ends.uncounted result
    rw [frames, cycles]
    exact ⟨by omega, room few.le⟩
  | ok o =>
    rw [ends.frames result, ends.cycles result]
    exact ⟨by omega, room few⟩

/-- A run that has made some frames goes on to the first one after them for which there is a
cause. -/
lemma finish?_trail (s : Settings) (c : Console) (n k : ℕ) (shown : List Output) :
    match finish? s n shown (trail s c k) with
    | none => ∀ j, k ≤ j → j < k + n → ∀ result, ¬ EndsAt s c j result
    | some report => ∃ j, k ≤ j ∧ j < k + n ∧
        (∀ i, k ≤ i → i < j → ∀ result, ¬ EndsAt s c i result) ∧ EndsWith s c j report := by
  induction n generalizing k shown with
  | zero =>
    intro j above below
    omega
  | succ n ih =>
    have here : k < k + (n + 1) := by omega
    have none (i : ℕ) (above : k ≤ i) (below : i < k) (result) : ¬ EndsAt s c i result := by omega
    unfold finish?
    cases frame : c.frameResult k with
    | error x =>
      have failed : (trail s c k).console.runFrame.1 = .error x := (c.runFrame_polled k).trans frame
      rw [advance_of_error failed]
      refine ⟨k, Nat.le_refl k, here, none, .of_error rfl (.error frame) ?_ ⟨rfl, rfl⟩⟩
      rw [← c.clearSerial_polled, Console.polled_succ]
      rfl
    | ok f =>
      have ok : (trail s c k).console.runFrame.1 = .ok f := (c.runFrame_polled k).trans frame
      have ending := ending?_trail (s := s) frame
      rw [advance_of_ok ok, after_trail frame]
      generalize ending? s (trail s c (k + 1)) f.suspended = last at ending
      cases last with
      | some last =>
        obtain ⟨o, text⟩ := last
        obtain ⟨cause, rfl⟩ := ending
        refine ⟨k, Nat.le_refl k, here, none, cause, c.clearSerial_polled (k + 1), fun _ => rfl,
          fun _ => rfl, fun _ => transcript_trail, fun same => ?_, fun failed => by cases failed⟩
        obtain rfl := Except.ok.inj same
        simp
      | none =>
        -- There is no cause at this frame; the later ones are those of the induction.
        have extend {m : ℕ} (rest : ∀ i, k + 1 ≤ i → i < m → ∀ result, ¬ EndsAt s c i result) :
            ∀ i, k ≤ i → i < m → ∀ result, ¬ EndsAt s c i result := by
          intro i above below
          rcases Nat.eq_or_lt_of_le above with rfl | later
          · exact ending
          · exact rest i later below
        have later := ih (k + 1)
          (((trail s c k).monitor.consume (trail s c k).collected).1.reverse ++ shown)
        rw [Nat.add_right_comm k 1 n, Nat.add_assoc k n 1] at later
        dsimp only
        generalize finish? s n _ (trail s c (k + 1)) = result at later
        cases result with
        | none => exact extend later
        | some report =>
          obtain ⟨j, above, below, first, account⟩ := later
          exact ⟨j, Nat.le_of_succ_le above, below, extend first, account⟩

end Run

/-- **A run ends with the first frame for which there is a cause.** It makes no frame after that,
and has counted the frames up to there and the sum of their cycles, and its last message says so. A
run that may make `n` frames and does not end has found no cause in any of them. With a limit, a run
ends after as many frames as the limit says, or after one if that is zero, unless it has ended
before. Every frame reports less than `2 ^ 32` cycles, so that both counters of a run that ends
within `2 ^ 32` frames stay below `2 ^ 64`. -/
theorem run_ends_first (s : Settings) (c : Console) (n : ℕ) :
    (match Run.finish? s n [] (Run.start s c) with
    | none =>
      (∀ k < n, ∀ result, ¬ Run.EndsAt s c k result) ∧
        ∀ l, s.frameLimit = some l → n < max 1 l.toNat
    | some report =>
      ∃ k < n, (∀ j < k, ∀ result, ¬ Run.EndsAt s c j result) ∧ Run.EndsWith s c k report ∧
        (∀ l, s.frameLimit = some l → k + 1 ≤ max 1 l.toNat) ∧
        (k < 2 ^ 32 → report.run.frames < 2 ^ 64 ∧ report.run.cycles < 2 ^ 64)) ∧
    ∀ k, c.reported k ≤ k * (2 ^ 32 - 1) := by
  refine ⟨?_, c.reported_le⟩
  -- Where no frame before has ended the run, the limit is further on.
  have before {m : ℕ} (none : ∀ k < m, ∀ result, ¬ Run.EndsAt s c k result) {l : UInt64}
      (limit : s.frameLimit = some l) : m < max 1 l.toNat := by
    by_contra beyond
    obtain ⟨result, ends⟩ := Run.exists_endsAt_of_limit (c := c) (k := m - 1) limit (by omega)
    exact none (m - 1) (by omega) result ends
  have account := Run.finish?_trail s c n 0 []
  have start : Run.trail s c 0 = Run.start s c := rfl
  rw [start, Nat.zero_add] at account
  generalize Run.finish? s n [] (Run.start s c) = result at account
  cases result with
  | none =>
    have none (k : ℕ) (below : k < n) := account k (Nat.zero_le k) below
    exact ⟨none, fun l limit => before none limit⟩
  | some report =>
    obtain ⟨k, -, below, first, ends⟩ := account
    have none (j : ℕ) (earlier : j < k) := first j (Nat.zero_le j) earlier
    exact ⟨k, below, none, ends, fun l limit => before none limit, ends.counters_lt⟩

/-- A run with the limit zero makes one frame. The program halts in it, and that counts before the
limit. -/
theorem run_ends_first_halted :
    ∃ report, Run.finish? { frameLimit := some 0 } 1 []
        (Run.start { frameLimit := some 0 } (sendingThen 0x76)) = some report ∧
      report.result = .ok .suspended ∧
      Run.EndsAt { frameLimit := some 0 } (sendingThen 0x76) 0 (.ok .suspended) ∧
      report.run.frames = 1 ∧ report.run.cycles = 44 ∧
      (sendingThen 0x76).reported 1 = 44 := by
  have ends : (Run.finish? { frameLimit := some 0 } 1 []
      (Run.start { frameLimit := some 0 } (sendingThen 0x76))).map
        (fun report => (report.result, report.run.cycles)) = some (.ok .suspended, 44) := by
    decide +kernel
  obtain ⟨report, run, same⟩ := Option.map_eq_some_iff.1 ends
  obtain ⟨suspended, cycles⟩ := Prod.mk.inj same
  obtain ⟨account, -⟩ := run_ends_first { frameLimit := some 0 } (sendingThen 0x76) 1
  rw [run] at account
  obtain ⟨k, below, -, ends, -⟩ := account
  obtain rfl : k = 0 := Nat.lt_one_iff.1 below
  refine ⟨report, run, suspended, ?_, ends.frames suspended, cycles, ?_⟩
  · rw [← suspended]
    exact ends.cause
  · rw [← cycles, ends.cycles suspended]

end GameBoy
