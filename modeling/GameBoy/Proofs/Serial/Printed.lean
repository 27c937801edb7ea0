import GameBoy.Proofs.Serial.Verdict
import GameBoy.Proofs.Text.Cuts

/-!
# What is printed of the serial output

A monitor that prints what it receives takes each chunk for a text of its own, and a run hands it
one chunk a frame. So a character whose bytes are sent in two frames is not printed: what stands in
its place are replacement characters. `Intact` says that this does not happen, and it is exactly
then that the text printed, and likewise the transcript, is that of all bytes together.
-/

namespace GameBoy

/-- The text that an output prints. -/
def Output.printedText : Output → List Char
  | .print text => text.toList
  | .message _ => []

/-- No chunk goes on with a character that the bytes before it have begun. -/
def Intact (chunks : List (Array UInt8)) : Prop :=
  ∀ earlier bytes later, chunks = earlier ++ bytes :: later →
    ¬ Utf8.Continues (Utf8.after none (earlier.flatMap Array.toList)) bytes.toList

/-- The texts of the chunks are the text of all bytes exactly if the chunks are intact. -/
lemma texts_eq_iff (chunks : List (Array UInt8)) :
    (chunks.flatMap fun bytes => Utf8.decode bytes.toList) =
        Utf8.decode (chunks.flatMap Array.toList) ↔ Intact chunks := by
  have parts := Utf8.decodeFrom_flatten_iff Utf8.sound_none (chunks.map Array.toList)
  rw [List.flatMap_map, ← List.flatMap_def] at parts
  rw [eq_comm]
  refine parts.trans (Iff.intro ?_ ?_)
  · intro all earlier bytes later split
    have here := all (earlier.map Array.toList) bytes.toList (later.map Array.toList)
      (by rw [split, List.map_append, List.map_cons])
    rwa [← List.flatMap_def] at here
  · intro intact earlier part later split
    obtain ⟨before, rest, rfl, rfl, cut⟩ := List.map_eq_append_iff.1 split
    obtain ⟨bytes, after, rfl, rfl, rfl⟩ := List.map_eq_cons_iff.1 cut
    rw [← List.flatMap_def]
    exact intact before bytes after rfl

namespace Monitor

/-- What is printed of a chunk is its text. -/
lemma printedText_consume {m : Monitor} (sink : m.sink = .stdout) (bytes : Array UInt8) :
    (m.consume bytes).1.flatMap Output.printedText = Utf8.decode bytes.toList := by
  unfold consume
  split_ifs with empty
  · obtain rfl := Array.isEmpty_iff.1 empty
    rfl
  · rw [sink]
    exact (List.flatMap_singleton _ _).trans String.toList_ofList

lemma sink_consume (m : Monitor) (bytes : Array UInt8) : (m.consume bytes).2.sink = m.sink := by
  unfold consume
  split_ifs <;> rfl

/-- What is printed of some chunks is the text of one after the other. -/
lemma printedText_consumeAll {m : Monitor} (sink : m.sink = .stdout)
    (chunks : List (Array UInt8)) :
    (m.consumeAll chunks).1.flatMap Output.printedText =
      chunks.flatMap fun bytes => Utf8.decode bytes.toList := by
  induction chunks generalizing m with
  | nil => rfl
  | cons bytes chunks ih =>
    have later : ((m.consume bytes).2.consumeAll chunks).1.flatMap Output.printedText = _ :=
      ih ((m.sink_consume bytes).trans sink)
    rw [List.flatMap_cons, ← printedText_consume sink, ← later, ← List.flatMap_append]
    rfl

end Monitor

namespace Run

/-- What a run has printed, output by output. -/
lemma Report.printed_eq (r : Report) :
    r.printed = String.ofList (r.outputs.reverse.flatMap Output.printedText) := by
  unfold Report.printed
  generalize r.outputs = outputs
  induction outputs with
  | nil => rfl
  | cons o outputs ih =>
    rw [List.foldr_cons, ih, List.reverse_cons, List.flatMap_append, List.flatMap_singleton,
      String.ofList_append]
    cases o with
    | print text => rw [Output.printedText, String.ofList_toList]
    | message text => rw [Output.printedText, String.ofList_nil, String.append_empty]

variable {s : Settings} {c : Console} {n : ℕ} {report : Report}

/-- A run that prints the serial output has printed the texts of its chunks. -/
lemma printed_of_finish? (sink : s.sink = .stdout)
    (h : finish? s n [] (start s c) = some report) :
    report.printed =
      String.ofList ((chunks s n (start s c)).flatMap fun bytes => Utf8.decode bytes.toList) := by
  obtain ⟨-, -, closing, outputs, last⟩ := consumes h
  have silent : closing.flatMap Output.printedText = [] := by
    split at last
    · obtain ⟨text, rfl⟩ := last
      rfl
    · rw [last]
      rfl
  rw [Report.printed_eq, outputs, List.reverse_nil, List.nil_append, List.flatMap_append, silent,
    List.append_nil]
  exact congrArg String.ofList (Monitor.printedText_consumeAll sink _)

end Run

/-- **What is printed is the text of all bytes, unless a character is cut.** Let a monitor that
prints what it receives get some chunks. The text that it has printed is that of all bytes together
exactly if no chunk goes on with a character that the bytes before it have begun, and the same is
true of its transcript; and so it is with a run, the chunks being what its frames have left for the
monitor. -/
theorem printed_whole_iff (chunks : List (Array UInt8)) :
    let received := (Monitor.start .stdout).consumeAll chunks
    let whole := Utf8.decode (chunks.flatMap Array.toList)
    (received.1.flatMap Output.printedText = whole ↔ Intact chunks) ∧
      (received.2.transcript = whole ↔ Intact chunks) ∧
      ∀ s c n report, s.sink = .stdout → Run.finish? s n [] (Run.start s c) = some report →
        Run.chunks s n (Run.start s c) = chunks →
          (report.printed = String.ofList whole ↔ Intact chunks) ∧
            (report.run.monitor.transcript = whole ↔ Intact chunks) := by
  intro received whole
  have transcript (sink : Sink) : ((Monitor.start sink).consumeAll chunks).2.transcript = whole ↔
      Intact chunks := by
    rw [Monitor.transcript_consumeAll]
    exact texts_eq_iff chunks
  refine ⟨?_, transcript .stdout, ?_⟩
  · rw [Monitor.printedText_consumeAll rfl]
    exact texts_eq_iff chunks
  · rintro s c n report sink ended rfl
    obtain ⟨monitor, -⟩ := Run.consumes ended
    rw [Run.printed_of_finish? sink ended, String.ofList_inj, monitor]
    exact ⟨texts_eq_iff _, transcript s.sink⟩

/-- A console whose program sends some bytes and halts, in frames that have time for one byte. -/
def sendingSlowly (bytes : List UInt8) : Console :=
  let program := bytes.flatMap (fun b => [0x3E, b, 0xE0, 0x01, 0x3E, 0x81, 0xE0, 0x02]) ++ [0x76]
  let memory := program.zipIdx.foldl
    (fun m (v, i) => m.write (0x0100 + i.toUInt16) v) Memory.powerOn
  { Console.powerOn { frameCycles := 40 } with
    machine := { Machine.powerOn with memory := memory } }

/-- A run that prints the bytes of two letters, sent in two frames, prints the letters. -/
theorem printed_whole_iff_letters :
    ∃ report, Run.finish? {} 3 [] (Run.start {} (sendingSlowly [0x4F, 0x4B])) = some report ∧
      report.printed = "OK" := by
  have ends : (Run.finish? {} 3 [] (Run.start {} (sendingSlowly [0x4F, 0x4B]))).isSome := by
    decide +kernel
  obtain ⟨report, run⟩ := Option.isSome_iff_exists.1 ends
  have chunks : Run.chunks {} 3 (Run.start {} (sendingSlowly [0x4F, 0x4B])) =
      [#[0x4F], #[0x4B], #[]] := by
    decide +kernel
  obtain ⟨-, transcript, printed⟩ := printed_whole_iff [#[0x4F], #[0x4B], #[]]
  have intact : Intact [#[0x4F], #[0x4B], #[]] := transcript.1 (by decide +kernel)
  exact ⟨report, run, (printed {} _ 3 report rfl run chunks).1.2 intact⟩

/-- A run that prints the bytes of one character, sent in three frames, prints three replacement
characters. -/
theorem run_splits_character :
    let c := sendingSlowly [0xE2, 0x82, 0xAC]
    Run.chunks {} 4 (Run.start {} c) = [#[0xE2], #[0x82], #[0xAC], #[]] ∧
      Utf8.decode [0xE2, 0x82, 0xAC] = ['\u20AC'] ∧
      ∃ report, Run.finish? {} 4 [] (Run.start {} c) = some report ∧
        report.result = .ok .suspended ∧ report.printed = "\uFFFD\uFFFD\uFFFD" ∧
        report.run.monitor.transcript = ['\uFFFD', '\uFFFD', '\uFFFD'] := by
  have chunks : Run.chunks {} 4 (Run.start {} (sendingSlowly [0xE2, 0x82, 0xAC])) =
      [#[0xE2], #[0x82], #[0xAC], #[]] := by
    decide +kernel
  have ends : (Run.finish? {} 4 [] (Run.start {} (sendingSlowly [0xE2, 0x82, 0xAC]))).map
      Run.Report.result = some (.ok .suspended) := by
    decide +kernel
  obtain ⟨report, run, suspended⟩ := Option.map_eq_some_iff.1 ends
  have texts : (Run.chunks {} 4 (Run.start {} (sendingSlowly [0xE2, 0x82, 0xAC]))).flatMap
      (fun bytes => Utf8.decode bytes.toList) = ['\uFFFD', '\uFFFD', '\uFFFD'] := by
    rw [chunks]
    decide +kernel
  refine ⟨chunks, by decide +kernel, report, run, suspended, ?_, ?_⟩
  · rw [Run.printed_of_finish? rfl run, texts]
  · rw [(Run.consumes run).1, Monitor.transcript_consumeAll]
    exact texts

end GameBoy
