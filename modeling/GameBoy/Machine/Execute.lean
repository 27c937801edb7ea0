import GameBoy.Machine.Basic

/-!
# Executing an instruction

`Machine.execute` carries out one instruction. The program counter must already have moved past it,
so that instructions that do not jump leave it alone.
-/

namespace GameBoy

namespace Machine

/-- Combines the accumulator with the byte of a source. -/
def arithmetic (m : Machine) (op : Arithmetic) (s : Source) : Machine :=
  let (v, f) := op.apply m.cpu.a (m.readSource s) m.cpu.flags
  (m.afterSource s).setResult v f

/-- Moves the bits of a byte by one place. The forms that imply the accumulator always clear the
zero flag. -/
def rotate (m : Machine) (op : Rotation) (x : Location) : Machine :=
  let v := m.byteAt x
  let w := op.result v m.cpu.flags.carry
  m.replace x w
    { zero := x != .accumulator && w == 0
      subtract := false
      halfCarry := false
      carry := op.carryOut v }

/-- Carries out an instruction. -/
def execute (m : Machine) (i : Instruction) : Machine :=
  match i with
  | .load d s =>
    let v := m.readSource s
    (m.afterSource s).store d v
  | .loadPair p w => { m with cpu := m.cpu.setPair p w }
  | .storeSp a => { m with memory := m.memory.writeWord a m.cpu.sp }
  | .loadSpHl => { m with cpu := { m.cpu with sp := m.cpu.hl } }
  | .loadHlSp e =>
    let (w, f) := Alu.addOffset m.cpu.sp e
    { m with cpu := { m.cpu.setHl w with flags := f } }
  | .push p => m.push (m.cpu.getPair p)
  | .pop p =>
    let w := m.top
    let m := m.drop
    { m with cpu := m.cpu.setPair p w }
  | .arithmetic op s => m.arithmetic op s
  | .increment x =>
    let (v, f) := Alu.increment (m.byteAt x) m.cpu.flags
    m.replace x v f
  | .decrement x =>
    let (v, f) := Alu.decrement (m.byteAt x) m.cpu.flags
    m.replace x v f
  | .addHl p =>
    let (w, f) := Alu.addWords m.cpu.hl (m.cpu.getPair p) m.cpu.flags
    { m with cpu := { m.cpu.setHl w with flags := f } }
  | .incrementPair p => { m with cpu := m.cpu.setPair p (m.cpu.getPair p + 1) }
  | .decrementPair p => { m with cpu := m.cpu.setPair p (m.cpu.getPair p - 1) }
  | .addSp e =>
    let (w, f) := Alu.addOffset m.cpu.sp e
    { m with cpu := { m.cpu with sp := w, flags := f } }
  | .rotate op x => m.rotate op x
  | .swap x =>
    let v := Alu.swap (m.byteAt x)
    m.replace x v { zero := v == 0, subtract := false, halfCarry := false, carry := false }
  | .testBit n s =>
    let f := Alu.testBit n (m.readSource s) m.cpu.flags
    (m.afterSource s).setFlags f
  | .setBit n x => m.replace x (Alu.setBit n (m.byteAt x)) m.cpu.flags
  | .resetBit n x => m.replace x (Alu.resetBit n (m.byteAt x)) m.cpu.flags
  | .complementCarry =>
    m.setFlags { m.cpu.flags with
      subtract := false, halfCarry := false, carry := !m.cpu.flags.carry }
  | .setCarry =>
    m.setFlags { m.cpu.flags with subtract := false, halfCarry := false, carry := true }
  | .decimalAdjust =>
    let (v, f) := Alu.decimalAdjust m.cpu.a m.cpu.flags
    m.setResult v f
  | .complement =>
    m.setResult (~~~m.cpu.a) { m.cpu.flags with subtract := true, halfCarry := true }
  | .jump a => m.goto a
  | .jumpHl => m.goto m.cpu.hl
  | .jumpIf cc a => if cc.holds m.cpu.flags then m.goto a else m
  | .jumpBy e => m.goto (Word.displace m.cpu.pc e)
  | .jumpByIf cc e => if cc.holds m.cpu.flags then m.goto (Word.displace m.cpu.pc e) else m
  | .call a => m.call a
  | .callIf cc a => if cc.holds m.cpu.flags then m.call a else m
  | .ret => m.ret
  | .retIf cc => if cc.holds m.cpu.flags then m.ret else m
  | .retInterrupt =>
    let m := m.ret
    { m with cpu := { m.cpu with ime := true, pendingIme := none } }
  | .restart n => m.call n.toUInt16
  | .halt => { m with cpu := { m.cpu with mode := .halted } }
  | .stop => { m with cpu := { m.cpu with mode := .stopped } }
  | .disableInterrupts => { m with cpu := { m.cpu with pendingIme := some false } }
  | .enableInterrupts => { m with cpu := { m.cpu with pendingIme := some true } }
  | .nop => m

end Machine

end GameBoy
