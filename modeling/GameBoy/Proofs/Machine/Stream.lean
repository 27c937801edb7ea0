import GameBoy.Proofs.Serial.Transfer

/-!
# Streams of bytes

A pointer that moves when it is used lets a program go through the memory byte by byte. The two
directions are mirror images of each other: `Direction.move` says where the pointer is after a
number of moves, and from there on one argument serves both. Bytes that are stored while the pointer
moves lie at the addresses through which it goes (`Memory.writeBytes`), and they are all there in
the end if no two of them share a cell (`Memory.map_read_writeBytes`), for then no write disturbs an
earlier one. Reading changes no memory, so that what is read is what lies there. The addresses may
wrap around or lie in the echo region.
-/

namespace GameBoy

/-! ## Directions -/

/-- The direction in which a pointer moves when it is used. -/
inductive Direction where
  /-- Towards higher addresses. -/
  | up
  /-- Towards lower addresses. -/
  | down
  deriving DecidableEq, Repr

namespace Direction

/-- The other direction. -/
def opposite : Direction → Direction
  | up => down
  | down => up

/-- The pointer that moves in a direction. -/
def pointer : Direction → Pointer
  | up => .hlUp
  | down => .hlDown

/-- The address that is reached by `n` moves; addresses wrap around. -/
def move (d : Direction) (a : UInt16) (n : ℕ) : UInt16 :=
  match d with
  | up => a + UInt16.ofNat n
  | down => a - UInt16.ofNat n

/-- The addresses through which `n` moves go, the first first. -/
def addresses (d : Direction) (a : UInt16) (n : ℕ) : List UInt16 := (List.range n).map (d.move a)

variable (d : Direction) (a : UInt16)

lemma move_zero : d.move a 0 = a := by
  cases d with
  | up => exact UInt16.add_zero a
  | down => exact UInt16.sub_zero a

/-- Moves add up. -/
lemma move_move (j k : ℕ) : d.move (d.move a j) k = d.move a (j + k) := by
  cases d <;> simp only [move, UInt16.ofNat_add] <;> grind

/-- A move in the other direction undoes the last move. -/
lemma opposite_move (n : ℕ) : d.opposite.move (d.move a (n + 1)) 1 = d.move a n := by
  cases d <;> simp only [move, opposite, UInt16.ofNat_add] <;> grind

/-- The first address is where the moves begin. -/
lemma addresses_succ (n : ℕ) :
    d.addresses a (n + 1) = a :: d.addresses (d.move a 1) n := by
  unfold addresses
  rw [List.range_succ_eq_map, List.map_cons, List.map_map, move_zero]
  congr 1
  refine List.map_congr_left fun k _ => ?_
  rw [move_move, Nat.add_comm]
  rfl

/-- The way back begins with the last address. -/
lemma reverse_addresses (n : ℕ) :
    (d.addresses a n).reverse = d.opposite.addresses (d.opposite.move (d.move a n) 1) n := by
  induction n with
  | zero => rfl
  | succ n ih =>
    have last : d.addresses a (n + 1) = d.addresses a n ++ [d.move a n] := by
      rw [addresses, List.range_succ, List.map_append]
      rfl
    rw [last, List.reverse_append, ih, opposite_move, addresses_succ]
    rfl

end Direction

/-! ## Bytes at the addresses of a stream -/

namespace Memory

variable (m : Memory) (d : Direction)

/-- Writes bytes to the addresses through which a pointer moves. -/
def writeBytes (m : Memory) (d : Direction) (a : UInt16) : List UInt8 → Memory
  | [] => m
  | v :: vs => (m.write a v).writeBytes d (d.move a 1) vs

variable {a : UInt16} {vs : List UInt8} (retains : ∀ x ∈ d.addresses a vs.length, Retains x)

include retains

/-- The other cells are kept. -/
lemma read_writeBytes_of_outside {b : UInt16}
    (outside : ∀ x ∈ d.addresses a vs.length, canonical x ≠ canonical b) :
    (m.writeBytes d a vs).read b = m.read b := by
  induction vs generalizing m a with
  | nil => rfl
  | cons v vs ih =>
    rw [List.length_cons, Direction.addresses_succ, List.forall_mem_cons] at retains outside
    exact (ih _ retains.2 outside.2).trans
      (m.read_write_of_ne a b v retains.1.ne_control outside.1)

/-- Nothing is sent. -/
lemma serialOutput_writeBytes : (m.writeBytes d a vs).serialOutput = m.serialOutput := by
  induction vs generalizing m a with
  | nil => rfl
  | cons v vs ih =>
    rw [List.length_cons, Direction.addresses_succ, List.forall_mem_cons] at retains
    exact (ih _ retains.2).trans (m.serialOutput_write_of_retains v retains.1)

/-- The bytes are where they were written, if no two of them share a cell. -/
theorem map_read_writeBytes (apart : ((d.addresses a vs.length).map canonical).Nodup) :
    (d.addresses a vs.length).map (m.writeBytes d a vs).read = vs := by
  induction vs generalizing m a with
  | nil => rfl
  | cons v vs ih =>
    rw [List.length_cons, Direction.addresses_succ] at retains apart ⊢
    rw [List.forall_mem_cons] at retains
    rw [List.map_cons, List.nodup_cons] at apart
    rw [List.map_cons]
    refine congrArg₂ List.cons ?_ (ih _ retains.2 apart.2)
    -- The later bytes lie in other cells, so that the first one stays.
    have later : ((m.write a v).writeBytes d (d.move a 1) vs).read a = (m.write a v).read a := by
      refine read_writeBytes_of_outside _ d retains.2 fun x member same => apart.1 ?_
      rw [← same]
      exact List.mem_map_of_mem member
    exact later.trans (m.read_write_of_retains v retains.1)

end Memory

/-! ## Storing and loading -/

/-- A program that stores bytes while the pointer moves. -/
def Direction.storing (d : Direction) (vs : List UInt8) : List Instruction :=
  vs.flatMap fun v =>
    [.load (.register .a) (.immediate v), .load (.memory d.pointer) .accumulator]

namespace Cpu

variable (c : Cpu)

/-- The processor after a stream: the pointer has moved to an address, and a byte was left in the
accumulator. -/
def streamed (c : Cpu) (a : UInt16) (v : UInt8) : Cpu := { c.setHl a with a := v }

lemma streamed_self : c.streamed c.hl c.a = c := by
  simp [streamed, setHl, hl]

lemma hl_streamed (a : UInt16) (v : UInt8) : (c.streamed a v).hl = a :=
  Word.ofBytes_high_low a

end Cpu

namespace Machine

/-- The machine after some instructions, the first first. -/
def executeAll (m : Machine) (is : List Instruction) : Machine := is.foldl execute m

/-- Loads a number of bytes while the pointer moves: the bytes, in the order in which the
accumulator holds them, and the machine afterwards. -/
def loadBytes (m : Machine) (d : Direction) : ℕ → List UInt8 × Machine
  | 0 => ([], m)
  | n + 1 =>
    let m' := m.execute (.load .accumulator (.memory d.pointer))
    (m'.cpu.a :: (m'.loadBytes d n).1, (m'.loadBytes d n).2)

variable (m : Machine) (d : Direction)

/-- The first byte is stored before the others. -/
lemma executeAll_storing_cons (v : UInt8) (vs : List UInt8) :
    m.executeAll (d.storing (v :: vs)) =
      executeAll
        { m with
          cpu := m.cpu.streamed (d.move m.cpu.hl 1) v
          memory := m.memory.write m.cpu.hl v }
        (d.storing vs) := by
  cases d <;> rfl

/-- Storing bytes moves the pointer, leaves the last byte in the accumulator, and writes the bytes
to the addresses through which the pointer moves. -/
theorem executeAll_storing (vs : List UInt8) :
    m.executeAll (d.storing vs) =
      { m with
        cpu := m.cpu.streamed (d.move m.cpu.hl vs.length) (vs.getLastD m.cpu.a)
        memory := m.memory.writeBytes d m.cpu.hl vs } := by
  induction vs generalizing m with
  | nil =>
    rw [List.length_nil, d.move_zero]
    exact congrArg (fun cpu => { m with cpu }) m.cpu.streamed_self.symm
  | cons v vs ih =>
    rw [executeAll_storing_cons, ih, Cpu.hl_streamed, d.move_move, List.length_cons, Nat.add_comm,
      List.getLastD_cons]
    rfl

/-- The first byte is loaded before the others. -/
lemma execute_load_pointer :
    m.execute (.load .accumulator (.memory d.pointer)) =
      { m with cpu := m.cpu.streamed (d.move m.cpu.hl 1) (m.memory.read m.cpu.hl) } := by
  cases d <;> rfl

/-- Loading bytes yields those at the addresses through which the pointer moves, moves the pointer,
and leaves the last byte in the accumulator. -/
theorem loadBytes_eq (n : ℕ) :
    m.loadBytes d n =
      ((d.addresses m.cpu.hl n).map m.memory.read,
        { m with
          cpu := m.cpu.streamed (d.move m.cpu.hl n)
            (((d.addresses m.cpu.hl n).map m.memory.read).getLastD m.cpu.a) }) := by
  induction n generalizing m with
  | zero =>
    rw [d.move_zero]
    exact congrArg (fun cpu => ([], { m with cpu })) m.cpu.streamed_self.symm
  | succ n ih =>
    rw [loadBytes, execute_load_pointer, ih, Cpu.hl_streamed, d.move_move, Nat.add_comm 1 n,
      Direction.addresses_succ, List.map_cons, List.getLastD_cons]
    rfl

end Machine

/-- **Streams of bytes.** Let a program store bytes at the pointer, one after the other, while the
pointer moves up or down, and let the addresses through which it moves retain what is written to
them and stand for different cells. Then the bytes lie at these addresses, in order. The pointer is
behind the last of them, the accumulator holds the last byte, and nothing else is changed, neither
another register nor a flag nor another cell; nothing is sent. Loading as many bytes in the same
direction from where the first was stored yields the same bytes, and loading them in the other
direction from where the last was stored yields them in reverse. Loading moves the pointer and
changes the accumulator, and nothing else. -/
theorem stream_faithful (m : Machine) (d : Direction) (vs : List UInt8)
    (retains : ∀ a ∈ d.addresses m.cpu.hl vs.length, ¬(0xFEA0 ≤ a.toNat ∧ a.toNat ≤ 0xFF7F))
    (apart : ((d.addresses m.cpu.hl vs.length).map canonical).Nodup)
    (m' : Machine) (stored : m.executeAll (d.storing vs) = m') :
    ((d.addresses m.cpu.hl vs.length).map m'.memory.read = vs ∧
      m' = { m with
        cpu := { m.cpu.setHl (d.move m.cpu.hl vs.length) with a := vs.getLastD m.cpu.a }
        memory := m'.memory } ∧
      (∀ b, (∀ a ∈ d.addresses m.cpu.hl vs.length, canonical a ≠ canonical b) →
        m'.memory.read b = m.memory.read b) ∧
      m'.memory.serialOutput = m.memory.serialOutput) ∧
    ∀ r : Machine, r.memory = m'.memory →
      (r.cpu.hl = m.cpu.hl →
        r.loadBytes d vs.length =
          (vs,
            { r with
              cpu := { r.cpu.setHl (d.move m.cpu.hl vs.length) with
                a := vs.getLastD r.cpu.a } })) ∧
      (r.cpu.hl = d.opposite.move (d.move m.cpu.hl vs.length) 1 →
        r.loadBytes d.opposite vs.length =
          (vs.reverse,
            { r with
              cpu := { r.cpu.setHl (d.opposite.move r.cpu.hl vs.length) with
                a := vs.reverse.getLastD r.cpu.a } })) := by
  have same := m.memory.map_read_writeBytes d retains apart
  rw [m.executeAll_storing] at stored
  subst stored
  refine ⟨⟨same, rfl, ?_, ?_⟩, ?_⟩
  · intro b outside
    exact m.memory.read_writeBytes_of_outside d retains outside
  · exact m.memory.serialOutput_writeBytes d retains
  · intro r memory
    refine ⟨?_, ?_⟩
    · intro first
      rw [r.loadBytes_eq, first, memory, same]
      rfl
    · intro last
      have back : (d.opposite.addresses r.cpu.hl vs.length).map r.memory.read = vs.reverse := by
        rw [last, ← d.reverse_addresses, List.map_reverse, memory, same]
      rw [r.loadBytes_eq, back]
      rfl

/-- A machine that points at the last address but one. -/
def pointingAtSecondLast : Machine where
  cpu := { Cpu.powerOn with h := 0xFF, l := 0xFE }
  memory := Memory.powerOn
  lastCycles := 0

/-- Three bytes are stored over the last address, so that the second enables interrupts and the
third is at the first address, and are loaded downwards from there. -/
theorem stream_faithful_wraps :
    Direction.up.addresses pointingAtSecondLast.cpu.hl 3 = [0xFFFE, 0xFFFF, 0x0000] ∧
    (pointingAtSecondLast.executeAll (Direction.up.storing [0x01, 0x02, 0x03])).memory.read
      0xFFFF = 0x02 ∧
    (pointingAtSecondLast.executeAll (Direction.up.storing [0x01, 0x02, 0x03])).cpu.hl = 0x0001 ∧
    ∀ r : Machine, r.cpu.hl = 0x0000 →
      r.memory =
        (pointingAtSecondLast.executeAll (Direction.up.storing [0x01, 0x02, 0x03])).memory →
      (r.loadBytes .down 3).1 = [0x03, 0x02, 0x01] := by
  have addresses : Direction.up.addresses pointingAtSecondLast.cpu.hl 3 =
      [0xFFFE, 0xFFFF, 0x0000] := by decide
  have retains : ∀ a ∈ Direction.up.addresses pointingAtSecondLast.cpu.hl 3,
      ¬(0xFEA0 ≤ a.toNat ∧ a.toNat ≤ 0xFF7F) := by
    rw [Direction.addresses, List.forall_mem_map]
    decide
  have apart : ((Direction.up.addresses pointingAtSecondLast.cpu.hl 3).map canonical).Nodup := by
    rw [addresses]
    decide
  generalize stored : pointingAtSecondLast.executeAll (Direction.up.storing [0x01, 0x02, 0x03]) = m'
  obtain ⟨⟨bytes, result, -, -⟩, loaded⟩ :=
    stream_faithful pointingAtSecondLast .up [0x01, 0x02, 0x03] retains apart m' stored
  refine ⟨addresses, ?_, ?_, ?_⟩
  · change (Direction.up.addresses pointingAtSecondLast.cpu.hl 3).map m'.memory.read = _ at bytes
    rw [addresses] at bytes
    simp only [List.map_cons, List.cons.injEq] at bytes
    exact bytes.2.1
  · have reached : Direction.up.move pointingAtSecondLast.cpu.hl 3 = 0x0001 := by decide
    rw [← reached]
    exact (congrArg (fun m => m.cpu.hl) result).trans (Cpu.hl_streamed _ _ 0x03)
  · intro r last memory
    exact congrArg Prod.fst ((loaded r memory).2 last)

end GameBoy
