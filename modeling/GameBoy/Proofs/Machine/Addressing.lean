import GameBoy.Proofs.Machine.Footprint

/-!
# Forms of an operand

An operand can have several forms that name one and the same place: the accumulator by name or
implied, a byte on the last page by its offset or its address, the byte at `HL` with a pointer that
moves and one that does not. This file says which forms can stand for each other.

Other names for operands are a `Renaming`. If a renaming keeps what is read, what is written, and
how the pointers move (`Renaming.Sound`), then it keeps what every instruction does
(`Machine.execute_rename`), apart from a rotation, the one kind of instruction that asks for the
form of its operand. Naming the accumulator is such a renaming, and naming the last page by its
addresses is one. What is left is to say what an instruction makes of the byte that it finds: a
`ByteUse` leaves it as it is, and a `Modification` changes it in place.
-/

namespace GameBoy

/-! ## Renamings -/

/-- Other names for operands. -/
structure Renaming where
  /-- The name of a byte that is read. -/
  source : Source → Source
  /-- The name of a byte that is written. -/
  destination : Destination → Destination
  /-- The name of a byte that is changed in place. -/
  location : Location → Location

namespace Instruction

/-- The instruction with other names for its operands. -/
def rename (ρ : Renaming) : Instruction → Instruction
  | load d s => load (ρ.destination d) (ρ.source s)
  | arithmetic op s => arithmetic op (ρ.source s)
  | increment x => increment (ρ.location x)
  | decrement x => decrement (ρ.location x)
  | rotate op x => rotate op (ρ.location x)
  | swap x => swap (ρ.location x)
  | testBit n s => testBit n (ρ.source s)
  | setBit n x => setBit n (ρ.location x)
  | resetBit n x => resetBit n (ρ.location x)
  | i => i

/-- The instruction moves the bits of a byte by one place. -/
def isRotate : Instruction → Bool
  | rotate _ _ => true
  | _ => false

lemma isRotate_rename (ρ : Renaming) (i : Instruction) : (i.rename ρ).isRotate = i.isRotate := by
  cases i <;> rfl

end Instruction

/-- The new names of operands name the same places. -/
structure Renaming.Sound (ρ : Renaming) (m : Machine) : Prop where
  /-- The same bytes are read. -/
  read : ∀ s, m.readSource (ρ.source s) = m.readSource s
  /-- The same pointers move. -/
  moved : ∀ s, m.afterSource (ρ.source s) = m.afterSource s
  /-- The same bytes are written, after others were read. -/
  stored : ∀ s d v, (m.afterSource s).store (ρ.destination d) v = (m.afterSource s).store d v
  /-- The same bytes are found. -/
  found : ∀ x, m.byteAt (ρ.location x) = m.byteAt x
  /-- The same bytes are replaced. -/
  replaced : ∀ x v f, m.replace (ρ.location x) v f = m.replace x v f

namespace Machine

variable {m : Machine} {ρ : Renaming}

/-- An instruction does the same if its operands have other names. A rotation can ask for the name
of its operand, and has to keep it. -/
theorem execute_rename (sound : ρ.Sound m) {i : Instruction}
    (kept : ∀ op x, i = .rotate op x → ρ.location x = x) :
    m.execute (i.rename ρ) = m.execute i := by
  cases i with
  | load d s =>
    simp only [Instruction.rename, execute]
    rw [sound.read, sound.moved, sound.stored]
  | arithmetic op s =>
    simp only [Instruction.rename, execute, arithmetic]
    rw [sound.read, sound.moved]
  | testBit n s =>
    simp only [Instruction.rename, execute]
    rw [sound.read, sound.moved]
  | increment x | decrement x | swap x | setBit n x | resetBit n x =>
    simp only [Instruction.rename, execute]
    rw [sound.found, sound.replaced]
  | rotate op x =>
    rw [Instruction.rename, kept op x rfl]
  | _ => rfl

/-- Two instructions whose operands have the same new names do the same. -/
lemma execute_eq_of_rename_eq (sound : ρ.Sound m) {i i' : Instruction}
    (same : i.rename ρ = i'.rename ρ) (kept : ∀ op x, i = .rotate op x → ρ.location x = x)
    (kept' : ∀ op x, i' = .rotate op x → ρ.location x = x) : m.execute i = m.execute i' := by
  rw [← execute_rename sound kept, same, execute_rename sound kept']

end Machine

/-! ## The accumulator -/

/-- The accumulator, wherever it is implied, as a register. -/
def Renaming.byName : Renaming where
  source
    | .accumulator => .register .a
    | s => s
  destination
    | .accumulator => .register .a
    | d => d
  location
    | .accumulator => .register .a
    | x => x

lemma Renaming.sound_byName (m : Machine) : byName.Sound m where
  read s := by cases s <;> rfl
  moved s := by cases s <;> rfl
  stored s d v := by cases d <;> rfl
  found x := by cases x <;> rfl
  replaced x v f := by cases x <;> rfl

namespace Machine

variable (m : Machine)

/-- The accumulator can be implied or named, but not in a rotation. -/
lemma execute_eq_of_byName {i i' : Instruction} (same : i.rename .byName = i'.rename .byName)
    (other : i.isRotate = false) : m.execute i = m.execute i' := by
  have other' : i'.isRotate = false := by
    rw [← i'.isRotate_rename .byName, ← same, i.isRotate_rename, other]
  apply execute_eq_of_rename_eq (Renaming.sound_byName m) same
  · rintro op x rfl
    cases other
  · rintro op x rfl
    cases other'

/-- A rotation of the accumulator clears the zero flag if the accumulator is implied, and tells with
it whether the result is zero if the accumulator is named. The rest is the same. -/
lemma execute_rotate_accumulator (op : Rotation) :
    (m.execute (.rotate op .accumulator)).cpu.flags.zero = false ∧
      m.execute (.rotate op (.register .a)) =
        (m.execute (.rotate op .accumulator)).setFlags
          { (m.execute (.rotate op .accumulator)).cpu.flags with
            zero := (m.execute (.rotate op .accumulator)).cpu.a == 0 } :=
  ⟨rfl, rfl⟩

end Machine

/-! ## The last page -/

/-- A byte on the last page has the address that its offset gives. -/
lemma Word.ofBytes_last_page (n : UInt8) : ofBytes 0xFF n = 0xFF00 + n.toUInt16 := by
  have lt := n.toNat_lt
  apply UInt16.toNat_inj.1
  rw [toNat_ofBytes, UInt16.toNat_add, UInt8.toNat_toUInt16, Nat.mod_eq_of_lt]
  · rfl
  · change 0xFF00 + n.toNat < 2 ^ 16
    omega

namespace Pointer

/-- The pointer with an address in place of an offset on the last page, which can be the one that
register `C` holds. -/
def byAddress (c : Cpu) : Pointer → Pointer
  | highPage n => direct (0xFF00 + n.toUInt16)
  | highPageC => direct (0xFF00 + c.c.toUInt16)
  | p => p

variable {c c' : Cpu}

/-- The address is the same as long as `C` is. -/
lemma address_byAddress (p : Pointer) (same : c'.c = c.c) :
    (p.byAddress c).address c' = p.address c' := by
  cases p with
  | highPage n => exact (Word.ofBytes_last_page n).symm
  | highPageC =>
    change 0xFF00 + c.c.toUInt16 = Word.ofBytes 0xFF c'.c
    rw [Word.ofBytes_last_page, same]
  | _ => rfl

lemma advance_byAddress (p : Pointer) : (p.byAddress c).advance c' = p.advance c' := by
  cases p <;> rfl

end Pointer

/-- Bytes on the last page, wherever they are named by an offset, by their address. -/
def Renaming.byAddress (c : Cpu) : Renaming where
  source
    | .memory p => .memory (p.byAddress c)
    | s => s
  destination
    | .memory p => .memory (p.byAddress c)
    | d => d
  location x := x

/-- Reading a byte leaves register `C` alone. -/
lemma Machine.c_afterSource (m : Machine) (s : Source) : (m.afterSource s).cpu.c = m.cpu.c := by
  rcases s with r | - | n | p
  case memory => cases p <;> rfl
  all_goals rfl

lemma Renaming.sound_byAddress (m : Machine) : (byAddress m.cpu).Sound m where
  read s := by
    cases s with
    | memory p => exact congrArg m.memory.read (p.address_byAddress rfl)
    | _ => rfl
  moved s := by
    cases s with
    | memory p => exact congrArg (fun c => { m with cpu := c }) p.advance_byAddress
    | _ => rfl
  stored s d v := by
    cases d with
    | memory p =>
      simp only [byAddress, Machine.store]
      rw [p.address_byAddress (m.c_afterSource s), p.advance_byAddress]
    | _ => rfl
  found x := rfl
  replaced x v f := rfl

/-- A byte on the last page can be named by its offset or its address. -/
lemma Machine.execute_eq_of_byAddress (m : Machine) {i i' : Instruction}
    (same : i.rename (.byAddress m.cpu) = i'.rename (.byAddress m.cpu)) :
    m.execute i = m.execute i' :=
  execute_eq_of_rename_eq (Renaming.sound_byAddress m) same (fun _ _ _ => rfl) fun _ _ _ => rfl

/-! ## Bytes that are used -/

/-- What can be done with a byte that stays as it is. -/
inductive ByteUse where
  /-- Combine the accumulator with it. -/
  | arithmetic (op : Arithmetic)
  /-- Test a bit of it. -/
  | testBit (n : Fin 8)
  deriving DecidableEq, Repr

namespace ByteUse

/-- The instruction that uses the byte of a source. -/
def of (s : Source) : ByteUse → Instruction
  | arithmetic op => .arithmetic op s
  | testBit n => .testBit n s

/-- What becomes of the accumulator `a` and the flags `f` when the byte `v` is used. -/
def apply (a v : UInt8) (f : Flags) : ByteUse → UInt8 × Flags
  | arithmetic op => op.apply a v f
  | testBit n => (a, Alu.testBit n v f)

/-- An instruction that uses a byte depends on the byte, the accumulator and the flags. -/
lemma execute_of (u : ByteUse) (m : Machine) (s : Source) :
    m.execute (u.of s) =
      (m.afterSource s).setResult (u.apply m.cpu.a (m.readSource s) m.cpu.flags).1
        (u.apply m.cpu.a (m.readSource s) m.cpu.flags).2 := by
  cases u with
  | arithmetic op => rfl
  | testBit n =>
    rcases s with r | - | n | p
    case memory => cases p <;> rfl
    all_goals rfl

end ByteUse

/-- The instruction that moves `HL` as a pointer does. -/
def Pointer.move? : Pointer → Option Instruction
  | hlUp => some (.incrementPair .hl)
  | hlDown => some (.decrementPair .hl)
  | _ => none

/-- There are two pointers that move. -/
lemma Pointer.eq_of_move? {p : Pointer} {move : Instruction} (moves : p.move? = some move) :
    p = .hlUp ∧ move = .incrementPair .hl ∨ p = .hlDown ∧ move = .decrementPair .hl := by
  cases p with
  | hlUp => exact .inl ⟨rfl, (Option.some.inj moves).symm⟩
  | hlDown => exact .inr ⟨rfl, (Option.some.inj moves).symm⟩
  | _ => cases moves

namespace Machine

variable (m : Machine) {p : Pointer} {move : Instruction}

/-- A pointer that moves names the byte at `HL`, and moves as the instruction does. -/
lemma execute_of_move? (moves : p.move? = some move) :
    m.readSource (.memory p) = m.readSource (.memory .hl) ∧
      m.afterSource (.memory p) = m.execute move := by
  obtain ⟨rfl, rfl⟩ | ⟨rfl, rfl⟩ := Pointer.eq_of_move? moves <;> exact ⟨rfl, rfl⟩

/-- A move does not depend on the accumulator and the flags, and keeps them. -/
lemma execute_move_setResult (moves : p.move? = some move) (v : UInt8) (f : Flags) :
    (m.setResult v f).execute move = (m.execute move).setResult v f := by
  obtain ⟨rfl, rfl⟩ | ⟨rfl, rfl⟩ := Pointer.eq_of_move? moves <;> rfl

/-- Using a byte moves the pointer afterwards. -/
lemma execute_of_moving (moves : p.move? = some move) (u : ByteUse) :
    m.execute (u.of (.memory p)) = (m.execute (u.of (.memory .hl))).execute move := by
  obtain ⟨read, after⟩ := m.execute_of_move? moves
  rw [u.execute_of, u.execute_of, read, after]
  exact (m.execute_move_setResult moves _ _).symm

/-- Copying a byte to or from the accumulator moves the pointer afterwards. -/
lemma execute_load_moving (moves : p.move? = some move) :
    m.execute (.load .accumulator (.memory p)) =
        (m.execute (.load .accumulator (.memory .hl))).execute move ∧
      m.execute (.load (.memory p) .accumulator) =
        (m.execute (.load (.memory .hl) .accumulator)).execute move := by
  obtain ⟨rfl, rfl⟩ | ⟨rfl, rfl⟩ := Pointer.eq_of_move? moves <;> exact ⟨rfl, rfl⟩

end Machine

/-! ## Bytes that are changed -/

/-- What can be done to a byte in place. -/
inductive Modification where
  /-- Add one. -/
  | increment
  /-- Take one. -/
  | decrement
  /-- Move the bits by one place. -/
  | rotate (op : Rotation)
  /-- Exchange the halves. -/
  | swap
  /-- Set a bit. -/
  | setBit (n : Fin 8)
  /-- Clear a bit. -/
  | resetBit (n : Fin 8)
  deriving DecidableEq, Repr

namespace Modification

/-- The instruction that changes the byte at a location. -/
def on (x : Location) : Modification → Instruction
  | increment => .increment x
  | decrement => .decrement x
  | rotate op => .rotate op x
  | swap => .swap x
  | setBit n => .setBit n x
  | resetBit n => .resetBit n x

/-- What becomes of the byte `v` and the flags `f`, if the byte is not the accumulator that is
implied. -/
def apply (v : UInt8) (f : Flags) : Modification → UInt8 × Flags
  | increment => Alu.increment v f
  | decrement => Alu.decrement v f
  | rotate op =>
    let w := op.result v f.carry
    (w, { zero := w == 0, subtract := false, halfCarry := false, carry := op.carryOut v })
  | swap =>
    let w := Alu.swap v
    (w, { zero := w == 0, subtract := false, halfCarry := false, carry := false })
  | setBit n => (Alu.setBit n v, f)
  | resetBit n => (Alu.resetBit n v, f)

/-- An instruction that changes a byte in place depends on the byte and the flags; only a rotation
can ask for the location. -/
lemma execute_on (c : Modification) (m : Machine) (x : Location)
    (named : ∀ op, c = rotate op → x ≠ .accumulator) :
    m.execute (c.on x) =
      m.replace x (c.apply (m.byteAt x) m.cpu.flags).1 (c.apply (m.byteAt x) m.cpu.flags).2 := by
  cases c with
  | rotate op =>
    cases x with
    | accumulator => exact absurd rfl (named op rfl)
    | register r | atHl => rfl
  | _ => rfl

end Modification

/-- **Forms of an operand.** An accumulator that is implied can be named, in any operand of any
instruction but a rotation; a rotation differs in the zero flag only, which is cleared if the
accumulator is implied and otherwise tells whether the result is zero. A byte on the last page can
be named by its address, which for an offset in `C` is the one before the instruction. With a
pointer that moves, using a byte, or copying it to or from the accumulator, is the same as with
`HL`, followed by a move of `HL`. What an operation makes of the accumulator and the flags depends
on them and on the byte that it uses; what one makes of a byte in place and of the flags depends on
the byte and the flags, whatever the location is, but for a rotation of an accumulator that is
implied. -/
theorem operand_forms (m : Machine) :
    (∀ i i' : Instruction, i.rename .byName = i'.rename .byName → i.isRotate = false →
      m.execute i = m.execute i') ∧
    (∀ op : Rotation,
      (m.execute (.rotate op .accumulator)).cpu.flags.zero = false ∧
      m.execute (.rotate op (.register .a)) =
        (m.execute (.rotate op .accumulator)).setFlags
          { (m.execute (.rotate op .accumulator)).cpu.flags with
            zero := (m.execute (.rotate op .accumulator)).cpu.a == 0 }) ∧
    (∀ i i' : Instruction, i.rename (.byAddress m.cpu) = i'.rename (.byAddress m.cpu) →
      m.execute i = m.execute i') ∧
    (∀ (p : Pointer) (move : Instruction), p.move? = some move →
      (∀ u : ByteUse,
        m.execute (u.of (.memory p)) = (m.execute (u.of (.memory .hl))).execute move) ∧
      m.execute (.load .accumulator (.memory p)) =
        (m.execute (.load .accumulator (.memory .hl))).execute move ∧
      m.execute (.load (.memory p) .accumulator) =
        (m.execute (.load (.memory .hl) .accumulator)).execute move) ∧
    (∀ (m' : Machine) (u : ByteUse) (s s' : Source), m'.cpu.a = m.cpu.a →
      m'.cpu.flags = m.cpu.flags → m'.readSource s' = m.readSource s →
      (m'.execute (u.of s')).cpu.a = (m.execute (u.of s)).cpu.a ∧
      (m'.execute (u.of s')).cpu.flags = (m.execute (u.of s)).cpu.flags) ∧
    ∀ (m' : Machine) (c : Modification) (x x' : Location), m'.cpu.flags = m.cpu.flags →
      m'.byteAt x' = m.byteAt x →
      (∀ op, c = .rotate op → x ≠ .accumulator ∧ x' ≠ .accumulator) →
      ∃ r f, m.execute (c.on x) = m.replace x r f ∧ m'.execute (c.on x') = m'.replace x' r f := by
  refine ⟨?_, m.execute_rotate_accumulator, ?_, ?_, ?_, ?_⟩
  · intro i i' same other
    exact m.execute_eq_of_byName same other
  · intro i i' same
    exact m.execute_eq_of_byAddress same
  · intro p move moves
    exact ⟨m.execute_of_moving moves, m.execute_load_moving moves⟩
  · intro m' u s s' a flags byte
    rw [u.execute_of, u.execute_of, a, flags, byte]
    exact ⟨rfl, rfl⟩
  · intro m' c x x' flags byte named
    have named' (op : Rotation) (rotates : c = .rotate op) : x' ≠ .accumulator :=
      (named op rotates).2
    refine ⟨_, _, c.execute_on m x fun op rotates => (named op rotates).1, ?_⟩
    rw [c.execute_on m' x' named', flags, byte]

/-- A machine that points at the last address, with the accumulator and a byte of its own RAM, whose
offset is in `C`, alike. -/
def pointingAtLastAddress : Machine where
  cpu := { Cpu.powerOn with a := 0x81, b := 0x81, c := 0x80, h := 0xFF, l := 0xFF }
  memory := (Memory.powerOn.write 0xFF80 0x81).write 0xFFFF 0x81
  lastCycles := 0

/-- The forms of a load, of an addition to itself, and of a rotation, at the last address. -/
theorem operand_forms_last_address :
    let m := pointingAtLastAddress
    (m.readSource (.memory .highPageC) = m.readSource .accumulator ∧
        m.byteAt .atHl = m.byteAt (.register .b)) ∧
      m.execute (.load .accumulator (.register .a)) =
        m.execute (.load (.register .a) .accumulator) ∧
      m.execute (.load (.memory .highPageC) .accumulator) =
        m.execute (.load (.memory (.direct 0xFF80)) .accumulator) ∧
      m.execute (.load .accumulator (.memory .hlUp)) =
        (m.execute (.load .accumulator (.memory .hl))).execute (.incrementPair .hl) ∧
      (m.execute (.load .accumulator (.memory .hlUp))).cpu.hl = 0x0000 ∧
      (m.execute (.arithmetic .add (.memory .highPageC))).cpu.a =
        (m.execute (.arithmetic .add .accumulator)).cpu.a ∧
      ∃ r f, m.execute (.rotate .left (.register .b)) = m.replace (.register .b) r f ∧
        m.execute (.rotate .left .atHl) = m.replace .atHl r f := by
  intro m
  obtain ⟨named, -, addressed, moving, used, changed⟩ := operand_forms m
  have read : m.readSource (.memory .highPageC) = m.readSource .accumulator := by decide +kernel
  have found : m.byteAt .atHl = m.byteAt (.register .b) := by decide +kernel
  refine ⟨⟨read, found⟩, named _ _ rfl rfl, addressed _ _ rfl,
    (moving .hlUp (.incrementPair .hl) rfl).2.1, by decide +kernel, ?_, ?_⟩
  · exact (used m (.arithmetic .add) .accumulator (.memory .highPageC) rfl rfl read).1
  · exact changed m (.rotate .left) (.register .b) .atHl rfl found
      fun op is => ⟨nofun, nofun⟩

end GameBoy
