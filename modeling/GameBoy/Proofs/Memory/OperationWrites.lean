import GameBoy.Proofs.Memory.Operation
import GameBoy.Proofs.Serial.Transfer

/-!
# The writes of an operation

Most of the operations that the outside of the machine performs on the memory are writes on the
address bus, like those of an instruction. The others either act on the byte of requests, which a
write could do as well, or they load a program, or they collect the serial output. So a property of
the memory is kept by every operation as soon as it is kept by a write, by a load and by a
collection (`Memory.perform_invariant`).
-/

namespace GameBoy

namespace Memory

namespace Operation

/-- The operation writes on the address bus. -/
def isOnBus : Operation → Bool
  | write .. | writeWord .. | increment _ | decrement _ | writeIo .. => true
  | load _ | request _ | withdraw _ | clearSerial => false

/-- The writes of an operation, the first first. -/
def writes (op : Operation) (m : Memory) : List BusWrite :=
  match op with
  | write a v => [⟨a, v⟩]
  | writeWord a w => [⟨a, Word.low w⟩, ⟨a + 1, Word.high w⟩]
  | increment a => [⟨a, m.read a + 1⟩]
  | decrement a => [⟨a, m.read a - 1⟩]
  | writeIo i v => [⟨i.address, v⟩]
  | load _ | request _ | withdraw _ | clearSerial => []

end Operation

variable {m : Memory} {op : Operation}

/-- An operation on the address bus changes the memory by its writes. -/
lemma perform_eq_writeAll (bus : op.isOnBus) : m.perform op = m.writeAll (op.writes m) := by
  cases op with
  | writeIo i v => exact (m.write_ioAddress i v).symm
  | write | writeWord | increment | decrement =>
    simp only [perform, Operation.writes, writeWord, increment, decrement, writeAll, List.foldl]
  | load | request | withdraw | clearSerial => exact absurd bus Bool.false_ne_true

/-- A program that is loaded leaves the page of hardware registers alone. -/
lemma io_load {m' : Memory} {program : Array UInt8} (h : m.load program = .ok m') :
    m'.io = m.io := by
  unfold load at h
  split_ifs at h
  -- The stores are large, and nothing should compare them byte by byte.
  generalize Vector.ofFn _ = rom at h
  obtain rfl := Except.ok.inj h
  rfl

/-- A program that is refused does so as well. -/
lemma io_loadOrKeep (m : Memory) (program : Array UInt8) : (m.loadOrKeep program).io = m.io := by
  unfold loadOrKeep
  cases loaded : m.load program with
  | ok m' => exact io_load loaded
  | error e => rfl

/-- What is kept by a write is kept by a sequence of writes. -/
lemma writeAll_invariant {P : Memory → Prop} (write : ∀ m a v, P m → P (m.write a v))
    (ws : List BusWrite) (h : P m) : P (m.writeAll ws) := by
  induction ws generalizing m with
  | nil => exact h
  | cons w ws ih =>
    rw [writeAll_cons]
    exact ih (write m w.address w.value h)

/-- What is kept by a write, by the loading of a program and by the collection of the output is kept
by every operation. -/
theorem perform_invariant {P : Memory → Prop} (write : ∀ m a v, P m → P (m.write a v))
    (load : ∀ m program, P m → P (m.loadOrKeep program)) (collect : ∀ m, P m → P m.clearSerial)
    (op : Operation) (h : P m) : P (m.perform op) := by
  cases op with
  | load program => exact load m program h
  | request i =>
    rw [perform, request_eq_write]
    exact write m _ _ h
  | withdraw i =>
    rw [perform, withdraw_eq_write]
    exact write m _ _ h
  | clearSerial => exact collect m h
  | write | writeWord | increment | decrement | writeIo =>
    rw [perform_eq_writeAll rfl]
    exact writeAll_invariant write _ h

/-- What every operation keeps holds after every sequence of operations. -/
lemma performAll_invariant {P : Memory → Prop} (kept : ∀ m op, P m → P (m.perform op))
    (ops : List Operation) (h : P m) : P (m.performAll ops) := by
  induction ops generalizing m with
  | nil => exact h
  | cons op ops ih => exact ih (kept m op h)

end Memory

end GameBoy
