import GameBoy.Proofs.Serial.Delivery
import GameBoy.Proofs.Text.Alignment

/-!
# The verdict of a monitor

A monitor reads every chunk as text of its own and looks for the words that announce a result in
all that it has read. A word may be cut between two chunks, and bytes that are no text may stand
before, after or within it. None of this matters: texts of chunks are aligned with the chunks, and
alignment is kept when chunks are joined, so the words are found exactly where their bytes are.
-/

namespace GameBoy

namespace Verdict

/-- The bytes of the word that announces a verdict. -/
def markerBytes : Verdict → List UInt8
  | passed => [0x50, 0x61, 0x73, 0x73, 0x65, 0x64]
  | failed => [0x46, 0x61, 0x69, 0x6C, 0x65, 0x64]

lemma toList_marker (v : Verdict) : v.marker.toList = v.markerBytes.map Utf8.asciiChar := by
  cases v <;> rfl

lemma markerBytes_ascii (v : Verdict) : ∀ b ∈ v.markerBytes, b < 0x80 := by
  cases v <;> decide +kernel

lemma markerBytes_ne_nil (v : Verdict) : v.markerBytes ≠ [] := by
  cases v <;> decide

lemma occursIn_iff {pattern cs : List Char} : occursIn pattern cs ↔ pattern <:+: cs := by
  induction cs with
  | nil => rw [occursIn, List.isEmpty_iff, List.infix_nil]
  | cons c cs ih =>
    rw [occursIn, Bool.or_eq_true, List.isPrefixOf_iff_prefix, ih, List.infix_cons_iff]

/-- The verdict of a text, the words being searched as parts of it. -/
lemma ofText?_eq (cs : List Char) :
    ofText? cs =
      if failed.marker.toList <:+: cs then some failed
      else if passed.marker.toList <:+: cs then some passed
      else none := by
  unfold ofText?
  simp only [occursIn_iff]

end Verdict

namespace Monitor

/-- The text of a chunk follows what was read before, be there something in the chunk or not. -/
lemma transcript_consume (m : Monitor) (bytes : Array UInt8) :
    (m.consume bytes).2.transcript = m.transcript ++ Utf8.decode bytes.toList := by
  unfold consume
  split_ifs with empty
  · obtain rfl := Array.isEmpty_iff.1 empty
    exact (List.append_nil _).symm
  · rfl

lemma transcript_consumeAll (m : Monitor) (chunks : List (Array UInt8)) :
    (m.consumeAll chunks).2.transcript =
      m.transcript ++ chunks.flatMap fun bytes => Utf8.decode bytes.toList := by
  induction chunks generalizing m with
  | nil => exact (List.append_nil _).symm
  | cons bytes chunks ih =>
    change ((m.consume bytes).2.consumeAll chunks).2.transcript = _
    rw [ih, transcript_consume, List.append_assoc, List.flatMap_cons]

lemma consumeAll_append (m : Monitor) (chunks later : List (Array UInt8)) :
    (m.consumeAll (chunks ++ later)).2 = ((m.consumeAll chunks).2.consumeAll later).2 := by
  induction chunks generalizing m with
  | nil => rfl
  | cons bytes chunks ih => exact ih (m.consume bytes).2

/-- The texts of some chunks are aligned with the chunks. -/
lemma aligned_chunks (chunks : List (Array UInt8)) :
    Utf8.Aligned (chunks.flatMap Array.toList)
      (chunks.flatMap fun bytes => Utf8.decode bytes.toList) := by
  induction chunks with
  | nil => exact .nil
  | cons bytes chunks ih =>
    rw [List.flatMap_cons, List.flatMap_cons]
    exact (Utf8.aligned_decode bytes.toList).append ih

end Monitor

/-- **The verdict does not depend on the chunks.** Whatever bytes a monitor has taken in, in
whatever chunks and with whatever sink, it has found failure if the bytes of the word `Failed` occur
in them, otherwise success if those of `Passed` do, and otherwise nothing. -/
theorem verdict?_consumeAll (sink : Sink) (chunks : List (Array UInt8)) :
    ((Monitor.start sink).consumeAll chunks).2.verdict? =
      if [0x46, 0x61, 0x69, 0x6C, 0x65, 0x64] <:+: chunks.flatMap Array.toList then some .failed
      else if [0x50, 0x61, 0x73, 0x73, 0x65, 0x64] <:+: chunks.flatMap Array.toList then
        some .passed
      else none := by
  have found (v : Verdict) :
      v.marker.toList <:+: ((Monitor.start sink).consumeAll chunks).2.transcript ↔
        v.markerBytes <:+: chunks.flatMap Array.toList := by
    rw [Monitor.transcript_consumeAll, v.toList_marker]
    exact (Monitor.aligned_chunks chunks).infix_iff v.markerBytes_ne_nil v.markerBytes_ascii
  rw [Monitor.verdict?, Verdict.ofText?_eq]
  simp only [found]
  rfl

/-- The word is cut in two, and a character that was begun before it never ends. -/
example : ((Monitor.start .discard).consumeAll [#[0xE2, 0x82, 0x46, 0x61], #[0x69, 0x6C, 0x65, 0x64]]
    ).2.verdict? = some .failed := by
  decide +kernel

end GameBoy
