import GameBoy.Proofs.Machine.UnseenChange

/-!
# The backlog of the serial line

The bytes that a program has sent wait in the memory until the host collects them. They are out of
the program's reach: `Memory.withBacklog` puts further bytes in front of those that wait, and that is
a change which is not seen at any address (`Memory.unseenAt_withBacklog`). A step does the same with
them as without them and leaves them in front, so that it makes no difference to a run when its
output is collected.
-/

namespace GameBoy

/-! ## The memory -/

/-- The page with further bytes in front of those that wait. -/
def IoPage.withBacklog (p : IoPage) (bytes : Array UInt8) : IoPage :=
  { p with serialOutput := bytes ++ p.serialOutput }

/-- Writing leaves the backlog in front. -/
lemma IoPage.set_withBacklog (p : IoPage) (bytes : Array UInt8) (i : IoOffset) (v : UInt8) :
    (p.withBacklog bytes).set i v = (p.set i v).withBacklog bytes := by
  unfold set
  split_ifs
  · simp only [withBacklog, send, store, request, requests, get, Array.append_push]
  · rfl

namespace Memory

/-- The memory with further bytes in front of those that wait. -/
def withBacklog (m : Memory) (bytes : Array UInt8) : Memory :=
  { m with io := m.io.withBacklog bytes }

variable (m : Memory) (bytes : Array UInt8)

@[simp] theorem serialOutput_withBacklog :
    (m.withBacklog bytes).serialOutput = bytes ++ m.serialOutput := rfl

@[simp] theorem clearSerial_withBacklog : (m.withBacklog bytes).clearSerial = m.clearSerial := rfl

/-- A memory is what is left after collecting its output, with that output in front. -/
lemma withBacklog_clearSerial : m.clearSerial.withBacklog m.serialOutput = m := by
  have output : m.serialOutput ++ #[] = m.io.serialOutput := Array.append_empty
  unfold withBacklog IoPage.withBacklog
  change ({ m with io := { m.io with serialOutput := m.serialOutput ++ #[] } } : Memory) = m
  rw [output]

@[simp] theorem read_withBacklog (a : UInt16) : (m.withBacklog bytes).read a = m.read a := by
  unfold read
  cases Cell.ofAddress a <;> rfl

@[simp] theorem write_withBacklog (a : UInt16) (v : UInt8) :
    (m.withBacklog bytes).write a v = (m.write a v).withBacklog bytes := by
  unfold write
  cases Cell.ofAddress a with
  | io i => exact congrArg (fun p => ({ m with io := p } : Memory)) (m.io.set_withBacklog bytes i v)
  | _ => rfl

/-- The backlog is not seen at any address. -/
lemma unseenAt_withBacklog : UnseenAt (fun _ => True) (·.withBacklog bytes) where
  read m a _ := m.read_withBacklog bytes a
  write m a v _ := m.write_withBacklog bytes a v
  requests _ := rfl
  interruptEnable _ := rfl
  withdraw _ _ := rfl

end Memory

/-- The machine with further bytes in front of those that wait. -/
def Machine.withBacklog (m : Machine) (bytes : Array UInt8) : Machine :=
  { m with memory := m.memory.withBacklog bytes }

/-! ## The console -/

namespace Console

/-- The console with further bytes in front of those that wait. -/
def withBacklog (c : Console) (bytes : Array UInt8) : Console :=
  { c with machine := c.machine.withBacklog bytes }

variable (c : Console) (bytes : Array UInt8)

@[simp] theorem serialOutput_withBacklog :
    (c.withBacklog bytes).serialOutput = bytes ++ c.serialOutput := rfl

@[simp] theorem clearSerial_withBacklog : (c.withBacklog bytes).clearSerial = c.clearSerial := rfl

/-- A console is what is left after collecting its output, with that output in front. -/
lemma withBacklog_clearSerial : c.clearSerial.withBacklog c.serialOutput = c :=
  congrArg (fun m => ({ c with machine := { c.machine with memory := m } } : Console))
    c.machine.memory.withBacklog_clearSerial

/-- A step does the same with a backlog and leaves it in front. -/
theorem step_withBacklog :
    (c.withBacklog bytes).step = (c.step.1, c.step.2.withBacklog bytes) :=
  c.step_changeMemory (Memory.unseenAt_withBacklog bytes) fun _ _ => trivial

/-- The steps of a console do not see the backlog. -/
theorem unseen_withBacklog : Unseen (withBacklog · bytes) where
  step c := c.step_withBacklog bytes
  mode _ := rfl

end Console

/-- A console whose program sends the letter X, so that it has a backlog, and then meets an
opcode. -/
def sendingThen (opcode : UInt8) : Console :=
  let program := [0x3E, 0x58, 0xE0, 0x01, 0x3E, 0x81, 0xE0, 0x02, opcode]
  let memory := program.zipIdx.foldl
    (fun m (v, i) => m.write (0x0100 + i.toUInt16) v) Memory.powerOn
  { Console.powerOn {} with machine := { Machine.powerOn with memory := memory } }

end GameBoy
