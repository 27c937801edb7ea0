import GameBoy.Cpu.Dump
import GameBoy.Proofs.Toml.Document

/-!
# The dump of the processor is read back

The state of the processor is written as a configuration text, and reading that text gives the same
state, whatever it is. The document behind the text is legible, so that the text describes the table
of the document, and the state is found again in that table, key by key.
-/

namespace GameBoy

namespace Flags

/-- The flags are found in their table. -/
lemma ofTable?_entries (f : Flags) : ofTable? f.entries.table = some f := by
  obtain ⟨zero, subtract, halfCarry, carry⟩ := f
  rfl

lemma legible_entries (f : Flags) : f.entries.Legible := by
  have bare : (∀ key ∈ keys, Toml.IsBareKey key) ∧ keys.Nodup := by decide
  refine .of_keys rfl bare.1 bare.2 ?_
  intro e member
  simp only [entries, List.mem_cons, List.not_mem_nil, or_false] at member
  rcases member with rfl | rfl | rfl | rfl <;> trivial

end Flags

namespace Cpu

/-- The keys of the state, with or without the one of the waiting change. -/
def keys (pending : Bool) : List String :=
  ["accumulator", "b", "c", "d", "e", "h", "l", "sp", "pc", "ime"] ++
    (if pending then ["pending_ime"] else []) ++ ["mode", "flags"]

/-- The keys need no quotes, and none is given twice. -/
lemma bare_keys : ∀ pending,
    (∀ key ∈ keys pending, Toml.IsBareKey key) ∧ (keys pending).Nodup := by
  decide

variable (c : Cpu)

lemma map_fst_document :
    c.document.entries.map Prod.fst ++ c.document.sections.map Prod.fst =
      keys c.pendingIme.isSome := by
  rw [document, pendingEntries]
  cases c.pendingIme <;> rfl

/-- Every scalar is read as it is written. -/
lemma legible_scalars : ∀ e ∈ c.document.entries, e.2.Legible := by
  have byte (x : UInt8) : (Toml.Scalar.number x.toNat).Legible :=
    Nat.le_trans (Nat.le_of_lt x.toNat_lt) (by decide)
  have word (x : UInt16) : (Toml.Scalar.number x.toNat).Legible :=
    Nat.le_trans (Nat.le_of_lt x.toNat_lt) (by decide)
  have pending : ∀ e ∈ c.pendingEntries, e.2.Legible := by
    rw [pendingEntries]
    cases c.pendingIme with
    | none => exact List.forall_mem_nil _
    | some b => exact List.forall_mem_singleton.2 trivial
  have mode : (Toml.Scalar.string c.mode.name).Legible := by
    cases c.mode <;> exact Toml.Scalar.legible_string (by decide)
  rw [document, List.forall_mem_append, List.forall_mem_append]
  refine ⟨⟨?_, pending⟩, List.forall_mem_singleton.2 mode⟩
  simp only [List.forall_mem_cons]
  exact ⟨byte c.a, byte c.b, byte c.c, byte c.d, byte c.e, byte c.h, byte c.l, word c.sp,
    word c.pc, trivial, List.forall_mem_nil _⟩

/-- The document of a processor is legible. -/
lemma legible_document : c.document.Legible := by
  obtain ⟨bare, nodup⟩ := bare_keys c.pendingIme.isSome
  exact .of_keys c.map_fst_document bare nodup c.legible_scalars
    (List.forall_mem_singleton.2 c.flags.legible_entries)

/-- The state is found in its table. -/
lemma ofTable?_document : ofTable? c.document.table = some c := by
  obtain ⟨a, flags, b, c, d, e, h, l, sp, pc, ime, pendingIme, mode⟩ := c
  have choice : Mode.ofName? mode.name = some mode := by cases mode <;> rfl
  have table : (Toml.Value.table flags.entries.table).toTable? Flags.keys =
      some flags.entries.table := rfl
  -- The waiting change stands in front of the last keys, or has no entry.
  rcases pendingIme with _ | pending
  all_goals
    simp [ofTable?, pendingOfTable?, document, pendingEntries, Toml.Document.table,
      Toml.Table.get?, List.lookup_cons, choice, table, Flags.ofTable?_entries]

end Cpu

/-- **The dump round-trips.** Whatever the state of the processor is, reading the text that it is
written as gives that state again. -/
theorem ofDump?_dump (c : Cpu) : Cpu.ofDump? c.dump = some c := by
  rw [Cpu.ofDump?, Cpu.dump, Toml.Table.ofText?_text c.legible_document]
  exact c.ofTable?_document

/-- A change of `ime` is waiting, and has its line. -/
example : ({ Cpu.powerOn with pendingIme := some true, mode := .halted } : Cpu).dump =
    "accumulator = 1\nb = 0\nc = 19\nd = 0\ne = 216\nh = 1\nl = 77\nsp = 65534\npc = 256\n" ++
      "ime = false\npending_ime = true\nmode = \"Halted\"\n\n" ++
      "[flags]\nzero = true\nsubtract = false\nhalf_carry = true\ncarry = true\n" := by
  decide +kernel

end GameBoy
