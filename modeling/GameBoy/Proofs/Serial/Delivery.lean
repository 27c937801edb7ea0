import GameBoy.Proofs.Console.Budget
import GameBoy.Proofs.Serial.Backlog
import GameBoy.Proofs.Serial.Transfer
import GameBoy.Run

/-!
# What a run delivers

A run hands the serial output to its monitor after every frame that succeeds, in one chunk a frame.
A frame that fails ends the run at once, so the bytes that its steps have transferred stay where
they are. `Run.Delivers` accounts for every byte that there was or was transferred, and
`run_delivers_iff` says when the monitor has received them all.
-/

namespace GameBoy

/-- What a monitor shows of some chunks, the first first, and the monitor after them. -/
def Monitor.consumeAll (m : Monitor) : List (Array UInt8) → List Output × Monitor
  | [] => ([], m)
  | bytes :: chunks =>
    let (shown, m) := m.consume bytes
    let (later, m) := m.consumeAll chunks
    (shown ++ later, m)

/-! ## Frames with a backlog -/

namespace Console

/-- The console after a number of frames, the serial output of which nobody has collected. -/
def frames (c : Console) (n : ℕ) : Console := (fun c => c.runFrame.2)^[n] c

variable (c : Console) (bytes : Array UInt8)

lemma frames_succ (n : ℕ) : c.frames (n + 1) = c.runFrame.2.frames n := rfl

/-- A frame does the same with a backlog and leaves it in front. -/
lemma runFrame_withBacklog :
    (c.withBacklog bytes).runFrame = (c.runFrame.1, c.runFrame.2.withBacklog bytes) :=
  (unseen_withBacklog bytes).runUntil c.config.frameCycles 0 c

lemma frames_withBacklog (n : ℕ) :
    (c.withBacklog bytes).frames n = (c.frames n).withBacklog bytes := by
  induction n generalizing c with
  | zero => rfl
  | succ n ih => rw [frames_succ, runFrame_withBacklog, ih, frames_succ]

lemma steps_withBacklog (n : ℕ) :
    (c.withBacklog bytes).steps n = (c.steps n).withBacklog bytes :=
  (unseen_withBacklog bytes).steps c n

/-- The steps transfer the same with a backlog. -/
lemma transfers_withBacklog (n : ℕ) : (c.withBacklog bytes).transfers n = c.transfers n := by
  have grown := (c.withBacklog bytes).serialOutput_steps n
  rw [steps_withBacklog, serialOutput_withBacklog, serialOutput_withBacklog, Array.toList_append,
    Array.toList_append, serialOutput_steps, List.append_assoc] at grown
  exact (List.append_cancel_left (List.append_cancel_left grown)).symm

end Console

namespace Run

/-! ## One frame of a run -/

/-- The serial output after the next frame. -/
def collected (r : Run) : Array UInt8 := r.console.runFrame.2.serialOutput

/-- The run after a frame that succeeds. -/
def after (r : Run) (f : FrameSummary) : Run where
  console := r.console.runFrame.2.clearSerial
  monitor := (r.monitor.consume r.collected).2
  frames := r.frames + 1
  cycles := r.cycles + f.cycles

lemma advance_of_error {s : Settings} {r : Run} {x : IllegalOpcode}
    (failed : r.console.runFrame.1 = .error x) :
    r.advance s = ([], { r with console := r.console.runFrame.2 }, some (.error x)) := by
  unfold advance
  cases frame : r.console.runFrame with
  | mk result d =>
    rw [frame] at failed
    obtain rfl : result = .error x := failed
    rfl

lemma advance_of_ok {s : Settings} {r : Run} {f : FrameSummary}
    (ok : r.console.runFrame.1 = .ok f) :
    r.advance s =
      match ending? s (r.after f) f.suspended with
      | some (o, text) =>
        ((r.monitor.consume r.collected).1 ++ [.message text], r.after f, some (.ok o))
      | none => ((r.monitor.consume r.collected).1, r.after f, none) := by
  unfold advance after collected
  cases frame : r.console.runFrame with
  | mk result d =>
    rw [frame] at ok
    obtain rfl : result = .ok f := ok
    rfl

/-- The outcomes of a frame of a run. -/
inductive Advance (r : Run) : List Output × Run × Option (Except IllegalOpcode Outcome) → Prop
  /-- The frame fails, and its output stays where it is. -/
  | failed {x : IllegalOpcode} (error : r.console.runFrame.1 = .error x) :
      Advance r ([], { r with console := r.console.runFrame.2 }, some (.error x))
  /-- The run ends with the frame, and a message says so. -/
  | ended {f : FrameSummary} {o : Outcome} {text : String} (ok : r.console.runFrame.1 = .ok f) :
      Advance r ((r.monitor.consume r.collected).1 ++ [.message text], r.after f, some (.ok o))
  /-- The run goes on. -/
  | going {f : FrameSummary} (ok : r.console.runFrame.1 = .ok f) :
      Advance r ((r.monitor.consume r.collected).1, r.after f, none)

/-- Every frame of a run has one of the outcomes. -/
theorem advance_cases (s : Settings) (r : Run) : r.Advance (r.advance s) := by
  cases frame : r.console.runFrame.1 with
  | error x =>
    rw [advance_of_error frame]
    exact .failed frame
  | ok f =>
    rw [advance_of_ok frame]
    cases ending? s (r.after f) f.suspended with
    | none => exact .going frame
    | some last => exact .ended frame

/-! ## All frames of a run -/

/-- The chunks that a run hands to its monitor, the first first. -/
def chunks (s : Settings) : ℕ → Run → List (Array UInt8)
  | 0, _ => []
  | n + 1, r =>
    match r.advance s with
    | (_, _, some (.error _)) => []
    | (_, _, some (.ok _)) => [r.collected]
    | (_, after, none) => r.collected :: chunks s n after

/-- The account of a run of `l` steps. If its last frame failed, that began after `k` of them. -/
structure Delivers (c : Console) (chunks : List (Array UInt8)) (report : Report) (k l : ℕ) :
    Prop where
  /-- The last frame began before it ended. -/
  le : k ≤ l
  /-- The console has made the steps. -/
  steps : report.run.console.clearSerial = (c.steps l).clearSerial
  /-- The chunks and what is left in the end are what there was and what was transferred. -/
  ordered : chunks.flatMap Array.toList ++ report.run.console.serialOutput.toList =
    c.serialOutput.toList ++ c.transfers l
  /-- A run that succeeds leaves nothing. -/
  finished {o : Outcome} (ok : report.result = .ok o) : report.run.console.serialOutput = #[]
  /-- A run that fails leaves what its last frame found and transferred. -/
  failed {x : IllegalOpcode} (error : report.result = .error x) :
    c.frames chunks.length = c.steps k ∧ (c.steps k).runFrame = (.error x, c.steps l) ∧
      report.run.console.serialOutput.toList =
        (if chunks = [] then c.serialOutput.toList else []) ++ (c.steps k).transfers (l - k)

/-- The account of a run with the frame before it. -/
lemma Delivers.cons {c : Console} {chunks : List (Array UInt8)} {report : Report} {k l m : ℕ}
    (final : c.runFrame.2 = c.steps m)
    (h : Delivers c.runFrame.2.clearSerial chunks report k l) :
    Delivers c (c.runFrame.2.serialOutput :: chunks) report (m + k) (m + l) := by
  -- The run goes on without the bytes that were collected, as it would have gone on with them.
  set bytes := c.runFrame.2.serialOutput with collected
  set d := c.runFrame.2.clearSerial with cleared
  have restored : c.steps m = d.withBacklog bytes := by
    rw [← final]
    exact c.runFrame.2.withBacklog_clearSerial.symm
  have later (j : ℕ) : c.steps (m + j) = (d.steps j).withBacklog bytes := by
    rw [Console.steps_add, restored, Console.steps_withBacklog]
  have transfers (j i : ℕ) : (c.steps (m + j)).transfers i = (d.steps j).transfers i := by
    rw [later, Console.transfers_withBacklog]
  have grown : bytes.toList = c.serialOutput.toList ++ c.transfers m := by
    rw [← Console.serialOutput_steps, ← final]
  have none : d.serialOutput.toList = [] := rfl
  refine ⟨Nat.add_le_add_left h.le m, ?_, ?_, h.finished, fun error => ?_⟩
  · rw [h.steps, later, Console.clearSerial_withBacklog]
  · have rest : c.transfers (m + l) = c.transfers m ++ d.transfers l := by
      rw [Console.transfers_add]
      exact congrArg _ (transfers 0 l)
    rw [List.flatMap_cons, List.append_assoc, h.ordered, none, List.nil_append, grown, rest,
      List.append_assoc]
  · obtain ⟨start, frame, left⟩ := h.failed error
    refine ⟨?_, ?_, ?_⟩
    · rw [List.length_cons, Console.frames_succ, final, restored, Console.frames_withBacklog,
        start, later]
    · rw [later, Console.runFrame_withBacklog, frame, later]
    · rw [left, none, ite_self, if_neg (List.cons_ne_nil _ _), transfers,
        Nat.add_sub_add_left]

/-- Every run that ends has an account. -/
theorem exists_delivers {s : Settings} {n : ℕ} {shown : List Output} {r : Run} {report : Report}
    (h : finish? s n shown r = some report) :
    ∃ k l, Delivers r.console (chunks s n r) report k l := by
  induction n generalizing shown r with
  | zero => cases h
  | succ n ih =>
    unfold finish? at h
    unfold chunks
    obtain ⟨m, -, final, -⟩ := r.console.runFrame_spec
    have outcome := r.advance_cases s
    generalize r.advance s = result at h outcome
    cases outcome with
    | @failed x error =>
      obtain rfl := Option.some.inj h
      refine ⟨0, m, Nat.zero_le m, ?_, ?_, nofun, fun same => ?_⟩
      · exact congrArg Console.clearSerial final
      · exact (congrArg (fun c => c.serialOutput.toList) final).trans
          (r.console.serialOutput_steps m)
      · obtain rfl := Except.error.inj same
        refine ⟨rfl, Prod.ext error final, ?_⟩
        exact (congrArg (fun c => c.serialOutput.toList) final).trans
          (r.console.serialOutput_steps m)
    | @ended f o text ok =>
      obtain rfl := Option.some.inj h
      refine ⟨m, m, Nat.le_refl m, ?_, ?_, fun _ => rfl, nofun⟩
      · change r.console.runFrame.2.clearSerial = _
        rw [final]
      · change [r.collected].flatMap Array.toList ++ [] = _
        rw [List.append_nil, List.flatMap_singleton, collected, final, Console.serialOutput_steps]
    | @going f ok =>
      obtain ⟨k, l, account⟩ := ih h
      exact ⟨m + k, m + l, account.cons final⟩

/-- The monitor receives exactly the chunks, one for each frame that was counted, and all that the
run shows besides is a message in the end. -/
theorem consumes {s : Settings} {n : ℕ} {shown : List Output} {r : Run} {report : Report}
    (h : finish? s n shown r = some report) :
    report.run.monitor = (r.monitor.consumeAll (chunks s n r)).2 ∧
      report.run.frames = r.frames + (chunks s n r).length ∧
      ∃ closing, report.outputs.reverse =
          shown.reverse ++ (r.monitor.consumeAll (chunks s n r)).1 ++ closing ∧
        match report.result with
        | .ok _ => ∃ text, closing = [.message text]
        | .error _ => closing = [] := by
  induction n generalizing shown r with
  | zero => cases h
  | succ n ih =>
    unfold finish? at h
    unfold chunks
    have outcome := r.advance_cases s
    generalize r.advance s = result at h outcome
    cases outcome with
    | @failed x error =>
      obtain rfl := Option.some.inj h
      refine ⟨rfl, rfl, [], ?_, rfl⟩
      simp [Monitor.consumeAll]
    | @ended f o text ok =>
      obtain rfl := Option.some.inj h
      refine ⟨rfl, rfl, [.message text], ?_, text, rfl⟩
      simp [Monitor.consumeAll]
    | @going f ok =>
      obtain ⟨monitor, frames, closing, outputs, last⟩ := ih h
      refine ⟨monitor, ?_, closing, ?_, last⟩
      · have counted : (r.after f).frames = r.frames + 1 := rfl
        rw [frames, counted, List.length_cons, Nat.add_right_comm, Nat.add_assoc]
      · rw [outputs, List.reverse_append, List.reverse_reverse, List.append_assoc shown.reverse]
        rfl

/-- Nothing is left of a run exactly if it succeeds, or its last frame transferred nothing and found
nothing. -/
lemma Delivers.serialOutput_eq_empty_iff {c : Console} {chunks : List (Array UInt8)}
    {report : Report} {k l : ℕ} (h : Delivers c chunks report k l) :
    report.run.console.serialOutput = #[] ↔
      ∀ x, report.result = .error x →
        (c.steps k).transfers (l - k) = [] ∧ (chunks = [] → c.serialOutput = #[]) := by
  cases result : report.result with
  | ok o => exact ⟨fun _ x error => (nomatch error), fun _ => h.finished result⟩
  | error x =>
    obtain ⟨-, -, left⟩ := h.failed result
    rw [← Array.toList_eq_nil_iff, left, List.append_eq_nil_iff]
    constructor
    · rintro ⟨found, transferred⟩ _ -
      refine ⟨transferred, fun first => ?_⟩
      rwa [if_pos first, Array.toList_eq_nil_iff] at found
    · intro nothing
      obtain ⟨transferred, found⟩ := nothing x rfl
      refine ⟨?_, transferred⟩
      split_ifs with first
      · rw [found first, Array.toList_empty]
      · rfl

end Run

/-- **A run delivers every byte, unless its last frame fails.** The monitor of a run that ends has
received the chunks, and no byte is lost: the chunks and what is left in the console are the bytes
that were there in the beginning and those that the steps transferred, in this order. What is left
when a frame fails is what that frame transferred, after what it found if it was the first. So all
bytes are delivered exactly if no frame fails or the failing frame neither transferred nor found
any. -/
theorem run_delivers_iff (s : Settings) (c : Console) {n : ℕ} {report : Run.Report}
    (h : Run.finish? s n [] (Run.start s c) = some report) :
    let chunks := Run.chunks s n (Run.start s c)
    let delivered := chunks.flatMap Array.toList
    let left := report.run.console.serialOutput.toList
    report.run.monitor = ((Monitor.start s.sink).consumeAll chunks).2 ∧
    (∃ closing, report.outputs.reverse = ((Monitor.start s.sink).consumeAll chunks).1 ++ closing ∧
      match report.result with
      | .ok _ => ∃ text, closing = [.message text]
      | .error _ => closing = []) ∧
    ∃ k l, k ≤ l ∧ report.run.console.clearSerial = (c.steps l).clearSerial ∧
      delivered ++ left = c.serialOutput.toList ++ c.transfers l ∧
      (∀ x, report.result = .error x →
        c.frames report.run.frames = c.steps k ∧ (c.steps k).runFrame = (.error x, c.steps l) ∧
        left = (if report.run.frames = 0 then c.serialOutput.toList else []) ++
          (c.steps k).transfers (l - k)) ∧
      (delivered = c.serialOutput.toList ++ c.transfers l ∧ left = [] ↔
        ∀ x, report.result = .error x →
          (c.steps k).transfers (l - k) = [] ∧
            (report.run.frames = 0 → c.serialOutput = #[])) := by
  intro chunks delivered left
  obtain ⟨monitor, frames, closing, outputs, last⟩ := Run.consumes h
  obtain ⟨k, l, account⟩ := Run.exists_delivers h
  have counted : report.run.frames = chunks.length := frames.trans (Nat.zero_add _)
  have first : report.run.frames = 0 ↔ chunks = [] := by
    rw [counted, List.length_eq_zero_iff]
  refine ⟨monitor, ⟨closing, outputs, last⟩, k, l, account.le, account.steps, account.ordered,
    fun x error => ?_, ?_⟩
  · obtain ⟨start, frame, found⟩ := account.failed error
    refine ⟨counted ▸ start, frame, ?_⟩
    simp only [first]
    exact found
  · have empty := account.serialOutput_eq_empty_iff
    simp only [first]
    constructor
    · rintro ⟨-, none⟩
      exact empty.1 (Array.toList_eq_nil_iff.1 none)
    · intro nothing
      have none : left = [] := Array.toList_eq_nil_iff.2 (empty.2 nothing)
      have ordered : delivered ++ left = c.serialOutput.toList ++ c.transfers l := account.ordered
      rw [none, List.append_nil] at ordered
      exact ⟨ordered, none⟩

/-- A run of a program that sends a letter and halts ends in its first frame, and the letter is
delivered. -/
theorem run_delivers_iff_halted :
    ∃ report, Run.finish? {} 1 [] (Run.start {} (sendingThen 0x76)) = some report ∧
      report.result = .ok .suspended ∧ report.run.console.serialOutput.toList = [] ∧
      ∃ l, (Run.chunks {} 1 (Run.start {} (sendingThen 0x76))).flatMap Array.toList =
        (sendingThen 0x76).transfers l := by
  have ends : (Run.finish? {} 1 [] (Run.start {} (sendingThen 0x76))).map Run.Report.result =
      some (.ok .suspended) := by
    decide +kernel
  obtain ⟨report, run, suspended⟩ := Option.map_eq_some_iff.1 ends
  obtain ⟨-, -, k, l, -, -, -, -, all⟩ := run_delivers_iff {} (sendingThen 0x76) run
  obtain ⟨delivered, left⟩ := all.2 fun x error => by
    rw [suspended] at error
    cases error
  exact ⟨report, run, suspended, left, l, delivered⟩

/-- A run of a program that sends a letter and then meets an opcode without a meaning fails in its
first frame: the letter is transferred, but the monitor receives nothing, and the letter is left. -/
theorem run_keeps_letter :
    (sendingThen 0xD3).transfers 5 = [0x58] ∧
      Run.chunks {} Run.maxFrames (Run.start {} (sendingThen 0xD3)) = [] ∧
      ∃ report, Run.complete {} (sendingThen 0xD3) = some report ∧
        report.result = .error ⟨0xD3, 0x0108⟩ ∧ report.outputs = [] ∧
        report.run.console.serialOutput = #[0x58] := by
  have ends : (Run.complete {} (sendingThen 0xD3)).map (fun report =>
      (report.result, report.outputs, report.run.console.serialOutput)) =
      some (.error ⟨0xD3, 0x0108⟩, [], #[0x58]) := by
    decide +kernel
  obtain ⟨report, run, shown⟩ := Option.map_eq_some_iff.1 ends
  refine ⟨by decide +kernel, by decide +kernel, report, run, ?_⟩
  simpa only [Prod.mk.injEq] using shown

end GameBoy
