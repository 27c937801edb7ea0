import GameBoy.Proofs.Alu.Bits
import GameBoy.Proofs.Machine.Footprint
import GameBoy.Proofs.Machine.Subroutine

/-!
# The order of the stack

What was pushed last is removed first. While a program pushes and removes words, the stack is the
list of the words that lie on it: `Machine.Stacked` says where they lie, counted from the address at
which the stack was empty. One push puts a word in front of the list (`Machine.Stacked.push`), and
one removal takes it from there (`Machine.Stacked.drop`), so that a run of pushes and a run of
removals are inductions over the words.

All that is needed is room: the bytes below the stack pointer retain what is written to them, and no
two of them share a cell. Then the stack may wrap around, lie in the echo region, or end in the byte
that enables interrupts.
-/

namespace GameBoy

/-! ## Room below an address -/

/-- The address above the byte at a depth. -/
lemma sub_ofNat_succ_add (a : UInt16) (k : ℕ) :
    a - UInt16.ofNat (k + 1) + 1 = a - UInt16.ofNat k := by
  rw [UInt16.ofNat_add]
  grind

/-- The address below the byte at a depth. -/
lemma sub_ofNat_sub (a : UInt16) (k l : ℕ) :
    a - UInt16.ofNat k - UInt16.ofNat l = a - UInt16.ofNat (k + l) := by
  rw [UInt16.ofNat_add]
  grind

/-- The address after one more word. -/
lemma add_two_add_ofNat (a : UInt16) (n : ℕ) :
    a + 2 + UInt16.ofNat (2 * n) = a + UInt16.ofNat (2 * (n + 1)) := by
  rw [Nat.mul_succ, UInt16.ofNat_add]
  grind

/-- The bytes into which the next `n` words go that are pushed at a stack pointer, the highest
first. -/
def stackBytes (sp : UInt16) (n : ℕ) : List UInt16 :=
  (List.range (2 * n)).map fun k => sp - UInt16.ofNat (k + 1)

lemma mem_stackBytes (a : UInt16) {n k : ℕ} (hk : k < 2 * n) :
    a - UInt16.ofNat (k + 1) ∈ stackBytes a n :=
  List.mem_map.2 ⟨k, List.mem_range.2 hk, rfl⟩

/-- There is room for `n` words below an address. -/
structure StackRoom (a : UInt16) (n : ℕ) : Prop where
  /-- The bytes retain what is written to them. -/
  retains : ∀ b ∈ stackBytes a n, Retains b
  /-- No two of them share a cell. -/
  apart : ((stackBytes a n).map canonical).Nodup

namespace StackRoom

variable {a : UInt16} {n : ℕ} (room : StackRoom a n) {j k : ℕ}

include room

lemma retains_sub (hk : k < 2 * n) : Retains (a - UInt16.ofNat (k + 1)) :=
  room.retains _ (mem_stackBytes a hk)

/-- Bytes at different depths are different cells. -/
lemma canonical_ne (hj : j < 2 * n) (hk : k < 2 * n) (other : j ≠ k) :
    canonical (a - UInt16.ofNat (j + 1)) ≠ canonical (a - UInt16.ofNat (k + 1)) := by
  intro same
  have apart := room.apart
  rw [stackBytes, List.map_map] at apart
  exact other
    (List.inj_on_of_nodup_map apart (List.mem_range.2 hj) (List.mem_range.2 hk) same)

end StackRoom

/-- Two memories agree on every cell outside of the room for `n` words below `sp`, and on the serial
output. -/
structure Memory.AgreeOutsideStack (sp : UInt16) (n : ℕ) (m m' : Memory) : Prop where
  /-- The other cells hold the same bytes. -/
  read : ∀ b, (∀ a ∈ stackBytes sp n, canonical a ≠ canonical b) → m'.read b = m.read b
  /-- Nothing was sent. -/
  serialOutput : m'.serialOutput = m.serialOutput

namespace Memory

variable {sp a : UInt16} {n : ℕ} {m m' m'' : Memory}

lemma AgreeOutsideStack.refl (sp : UInt16) (n : ℕ) (m : Memory) : AgreeOutsideStack sp n m m :=
  ⟨fun _ _ => rfl, rfl⟩

lemma AgreeOutsideStack.trans (h : AgreeOutsideStack sp n m m')
    (h' : AgreeOutsideStack sp n m' m'') : AgreeOutsideStack sp n m m'' :=
  ⟨fun b outside => (h'.read b outside).trans (h.read b outside),
    h'.serialOutput.trans h.serialOutput⟩

/-- A write to the room for the stack changes nothing outside of it. -/
lemma agreeOutsideStack_write (m : Memory) (v : UInt8) (inside : a ∈ stackBytes sp n)
    (retains : Retains a) : AgreeOutsideStack sp n m (m.write a v) where
  read b outside := m.read_write_of_ne a b v retains.ne_control (outside a inside)
  serialOutput := m.serialOutput_write_of_retains v retains

/-! ## Words below an address -/

/-- The words lie below the address `a`, the last of the list directly below it. -/
def HoldsBelow (m : Memory) (a : UInt16) : List UInt16 → Prop
  | [] => True
  | w :: ws => m.readWord (a - UInt16.ofNat (2 * (ws.length + 1))) = w ∧ m.HoldsBelow a ws

/-- A word lies in two neighbouring bytes. -/
lemma readWord_below (m : Memory) (a : UInt16) (k : ℕ) :
    m.readWord (a - UInt16.ofNat (2 * (k + 1))) =
      Word.ofBytes (m.read (a - UInt16.ofNat (2 * k + 1)))
        (m.read (a - UInt16.ofNat (2 * k + 1 + 1))) := by
  rw [readWord, Nat.mul_succ, sub_ofNat_succ_add]

/-- Words stay where they lie as long as their bytes do. -/
lemma HoldsBelow.of_same {ws : List UInt16} (held : m.HoldsBelow a ws)
    (same : ∀ k < 2 * ws.length,
      m'.read (a - UInt16.ofNat (k + 1)) = m.read (a - UInt16.ofNat (k + 1))) :
    m'.HoldsBelow a ws := by
  induction ws with
  | nil => trivial
  | cons w ws ih =>
    rw [List.length_cons] at same
    obtain ⟨top, others⟩ := held
    refine ⟨?_, ih others fun k small => same k (by omega)⟩
    rw [← top, readWord_below, readWord_below, same _ (by omega), same _ (by omega)]

end Memory

/-! ## Pushing and removing one word -/

namespace Machine

/-- The stack holds the words of a list, the first on top, and was empty at the address `a`. -/
structure Stacked (a : UInt16) (m : Machine) (ws : List UInt16) : Prop where
  /-- The stack pointer has moved down by two for each word. -/
  sp : m.cpu.sp = a - UInt16.ofNat (2 * ws.length)
  /-- The words lie above it. -/
  words : m.memory.HoldsBelow a ws

namespace Stacked

variable {a : UInt16} {n : ℕ} {m m' : Machine} {w : UInt16} {ws : List UInt16}

/-- A stack on which nothing was put holds no words. -/
lemma empty (m : Machine) : Stacked m.cpu.sp m [] := ⟨(UInt16.sub_zero m.cpu.sp).symm, trivial⟩

/-- The stack is made of the stack pointer and the memory. -/
lemma of_same (held : Stacked a m ws) (sp : m'.cpu.sp = m.cpu.sp) (memory : m'.memory = m.memory) :
    Stacked a m' ws :=
  ⟨sp.trans held.sp, memory ▸ held.words⟩

/-- The bytes of the next word are those at the next two depths. -/
lemma sp_sub (held : Stacked a m ws) :
    m.cpu.sp - 1 = a - UInt16.ofNat (2 * ws.length + 1) ∧
      m.cpu.sp - 2 = a - UInt16.ofNat (2 * ws.length + 1 + 1) := by
  rw [held.sp]
  exact ⟨sub_ofNat_sub a _ 1, sub_ofNat_sub a _ 2⟩

/-- A push puts a word in front of the list. -/
theorem push (held : Stacked a m ws) (room : StackRoom a n) (free : ws.length < n) (w : UInt16) :
    Stacked a (m.push w) (w :: ws) := by
  obtain ⟨upper, lower⟩ := held.sp_sub
  have retains := room.retains_sub (k := 2 * ws.length) (by omega)
  have retains' := room.retains_sub (k := 2 * ws.length + 1) (by omega)
  refine ⟨lower, ?_, held.words.of_same fun k small => ?_⟩
  · have pushed := m.memory.readWord_pushed w (upper ▸ retains) (lower ▸ retains')
    change (m.push w).memory.readWord (a - UInt16.ofNat (2 * ws.length + 1 + 1)) = w
    rw [← lower]
    exact pushed
  · -- The bytes of the word lie deeper than those of the words before.
    change ((m.memory.write (m.cpu.sp - 1) _).write (m.cpu.sp - 2) _).read _ = _
    rw [upper, lower,
      Memory.read_write_of_ne _ _ _ _ retains'.ne_control
        (room.canonical_ne (by omega) (by omega) (by omega)),
      Memory.read_write_of_ne _ _ _ _ retains.ne_control
        (room.canonical_ne (by omega) (by omega) (by omega))]

/-- A push changes only its two bytes. -/
theorem agree_push (held : Stacked a m ws) (room : StackRoom a n) (free : ws.length < n)
    (w : UInt16) : Memory.AgreeOutsideStack a n m.memory (m.push w).memory := by
  obtain ⟨upper, lower⟩ := held.sp_sub
  have inside : m.cpu.sp - 1 ∈ stackBytes a n := upper ▸ mem_stackBytes a (by omega)
  have inside' : m.cpu.sp - 2 ∈ stackBytes a n := lower ▸ mem_stackBytes a (by omega)
  exact (m.memory.agreeOutsideStack_write _ inside (room.retains _ inside)).trans
    (Memory.agreeOutsideStack_write _ _ inside' (room.retains _ inside'))

/-- The word that is removed is the first of the list. -/
theorem drop (held : Stacked a m (w :: ws)) : m.top = w ∧ Stacked a m.drop ws := by
  refine ⟨?_, ?_, held.words.2⟩
  · have top := held.words.1
    rwa [← List.length_cons (a := w), ← held.sp] at top
  · change m.cpu.sp + 2 = _
    rw [held.sp, List.length_cons, Nat.mul_succ, UInt16.ofNat_add]
    grind

end Stacked

/-! ## Pushing and removing many words -/

/-- Pushes words, the first first. -/
def pushAll (m : Machine) (ws : List UInt16) : Machine := ws.foldl push m

/-- Removes a number of words: the words, in the order in which they come, and the machine without
them. -/
def popAll (m : Machine) : ℕ → List UInt16 × Machine
  | 0 => ([], m)
  | n + 1 => (m.top :: (m.drop.popAll n).1, (m.drop.popAll n).2)

variable {a : UInt16} {n : ℕ} {m : Machine} {ws st : List UInt16}

/-- Pushing words puts them in front of the list, and changes only the room for the stack. -/
lemma Stacked.pushAll (held : Stacked a m st) (room : StackRoom a n)
    (free : st.length + ws.length ≤ n) :
    Stacked a (m.pushAll ws) (ws.reverse ++ st) ∧
      Memory.AgreeOutsideStack a n m.memory (m.pushAll ws).memory := by
  induction ws generalizing m st with
  | nil => exact ⟨held, .refl a n m.memory⟩
  | cons w ws ih =>
    rw [List.length_cons] at free
    have less : st.length < n := by omega
    obtain ⟨held', agree⟩ := ih (held.push room less w) (by rw [List.length_cons]; omega)
    rw [List.reverse_cons, List.append_assoc]
    exact ⟨held', (held.agree_push room less w).trans agree⟩

/-- Removing words takes them from the front of the list. -/
lemma Stacked.popAll (held : Stacked a m (ws ++ st)) : (m.popAll ws.length).1 = ws := by
  induction ws generalizing m with
  | nil => rfl
  | cons w ws ih =>
    obtain ⟨top, held'⟩ := held.drop
    exact congrArg₂ List.cons top (ih held')

/-- Pushing words moves the stack pointer and writes to memory. -/
lemma pushAll_eq (m : Machine) (ws : List UInt16) :
    m.pushAll ws =
      { m with
        cpu := { m.cpu with sp := m.cpu.sp - UInt16.ofNat (2 * ws.length) }
        memory := (m.pushAll ws).memory } := by
  induction ws generalizing m with
  | nil =>
    have kept : m.cpu.sp - UInt16.ofNat (2 * 0) = m.cpu.sp := UInt16.sub_zero m.cpu.sp
    rw [List.length_nil, kept]
    rfl
  | cons w ws ih =>
    have deeper : m.cpu.sp - 2 - UInt16.ofNat (2 * ws.length) =
        m.cpu.sp - UInt16.ofNat (2 * (w :: ws).length) := by
      rw [List.length_cons, Nat.mul_succ, Nat.add_comm]
      exact sub_ofNat_sub m.cpu.sp 2 _
    rw [← deeper]
    exact ih (m.push w)

/-- Removing words moves the stack pointer only. -/
lemma popAll_snd (m : Machine) (n : ℕ) :
    (m.popAll n).2 = { m with cpu := { m.cpu with sp := m.cpu.sp + UInt16.ofNat (2 * n) } } := by
  induction n generalizing m with
  | zero =>
    have kept : m.cpu.sp + UInt16.ofNat (2 * 0) = m.cpu.sp := UInt16.add_zero m.cpu.sp
    rw [kept]
    rfl
  | succ n ih =>
    rw [← add_two_add_ofNat]
    exact ih m.drop

/-- As many words are removed as were pushed: they come in reverse order, and what is left of them
are their bytes in memory. -/
lemma popAll_pushAll (room : StackRoom m.cpu.sp ws.length) :
    (m.pushAll ws).popAll ws.length =
      (ws.reverse, { m with memory := (m.pushAll ws).memory }) := by
  obtain ⟨held, -⟩ := (Stacked.empty m).pushAll room (Nat.zero_add ws.length).le
  refine Prod.ext ?_ ?_
  · have popped := held.popAll
    rwa [List.length_reverse] at popped
  · have back : m.cpu.sp - UInt16.ofNat (2 * ws.length) + UInt16.ofNat (2 * ws.length) =
        m.cpu.sp := UInt16.sub_add_cancel _ _
    rw [popAll_snd, pushAll_eq]
    simp only [back]

end Machine

/-! ## Word registers on the stack -/

/-- What a word register holds after the word `w` was removed from the stack into it: the lower half
of the flags' byte is clear. -/
def Pair.restored (p : Pair) (w : UInt16) : UInt16 :=
  if p = .af then Word.ofBytes (Word.high w) (Word.low w &&& 0xF0) else w

namespace Cpu

variable (c : Cpu)

/-- A word register holds the word that was put into it, as far as it can. -/
lemma getPair_setPair_eq_restored (p : Pair) (w : UInt16) :
    (c.setPair p w).getPair p = p.restored w := by
  by_cases flags : p = .af
  · rw [Pair.restored, if_pos flags, flags, ← Flags.toByte_ofByte]
    rfl
  · rw [Pair.restored, if_neg flags, c.getPair_setPair p w flags]

/-- Puts words into word registers, one after the other. -/
def setPairs (entries : List (Pair × UInt16)) : Cpu :=
  entries.foldl (fun c entry => c.setPair entry.1 entry.2) c

/-- A word register other than the stack pointer has nothing to do with it. -/
lemma setPair_withSp {p : Pair} (named : p ≠ .sp) (w s : UInt16) :
    ({ c with sp := s }).setPair p w = { c.setPair p w with sp := s } := by
  cases p with
  | sp => exact absurd rfl named
  | _ => rfl

lemma setPairs_withSp {entries : List (Pair × UInt16)} (named : ∀ e ∈ entries, e.1 ≠ .sp)
    (s : UInt16) : ({ c with sp := s }).setPairs entries = { c.setPairs entries with sp := s } := by
  induction entries generalizing c with
  | nil => rfl
  | cons e entries ih =>
    obtain ⟨first, others⟩ := List.forall_mem_cons.1 named
    change (({ c with sp := s }).setPair e.1 e.2).setPairs entries = _
    rw [c.setPair_withSp first]
    exact ih (c.setPair e.1 e.2) others

end Cpu

namespace Machine

/-- The stack pointer and the memory of two machines are the same. -/
def SameStack (m m' : Machine) : Prop := m'.cpu.sp = m.cpu.sp ∧ m'.memory = m.memory

/-- A program that saves word registers at work: from the machine `m` it pushes the words `ws`, the
first first, and leaves the machine `m'`. Before each push it may do anything that leaves the stack
pointer and the memory as they are, such as loading the register. -/
inductive Saves : Machine → List UInt16 → Machine → Prop
  /-- There is nothing more to save. -/
  | nil (m : Machine) : Saves m [] m
  /-- The word in a word register is pushed. -/
  | cons {m ready m' : Machine} {ws : List UInt16} (p : Pair) (between : m.SameStack ready)
      (rest : Saves (ready.execute (.push p)) ws m') : Saves m (ready.cpu.getPair p :: ws) m'

/-- A program that restores word registers at work: from the machine `m` it removes one word after
the other, each into a word register, and leaves the machine `m'`. The entries say which registers
these are, and what they hold afterwards. Before each removal it may do anything that leaves the
stack pointer and the memory as they are. -/
inductive Restores : Machine → List (Pair × UInt16) → Machine → Prop
  /-- There is nothing more to restore. -/
  | nil (m : Machine) : Restores m [] m
  /-- A word is removed into a word register. -/
  | cons {m ready m' : Machine} {entries : List (Pair × UInt16)} (p : Pair) (named : p ≠ .sp)
      (between : m.SameStack ready) (rest : Restores (ready.execute (.pop p)) entries m') :
      Restores m ((p, (ready.execute (.pop p)).cpu.getPair p) :: entries) m'

namespace Stacked

variable {a : UInt16} {n : ℕ} {m m' : Machine} {ws st : List UInt16}

/-- Saving word registers puts their words in front of the list, and changes only the room for the
stack. -/
lemma saves (run : Saves m ws m') (held : Stacked a m st) (room : StackRoom a n)
    (free : st.length + ws.length ≤ n) :
    Stacked a m' (ws.reverse ++ st) ∧ Memory.AgreeOutsideStack a n m.memory m'.memory := by
  induction run generalizing st with
  | nil m => exact ⟨held, .refl a n m.memory⟩
  | @cons m ready m' ws p between rest ih =>
    rw [List.length_cons] at free
    have less : st.length < n := by omega
    have ready' := held.of_same between.1 between.2
    have agree := ready'.agree_push room less (ready.cpu.getPair p)
    obtain ⟨held', agree'⟩ := ih (ready'.push room less _) (by rw [List.length_cons]; omega)
    rw [between.2] at agree
    rw [List.reverse_cons, List.append_assoc]
    exact ⟨held', agree.trans agree'⟩

/-- One removal into a word register. -/
lemma pop {w : UInt16} (held : Stacked a m (w :: ws)) {p : Pair} (named : p ≠ .sp) :
    m.execute (.pop p) = { m.drop with cpu := m.drop.cpu.setPair p w } ∧
      Stacked a (m.execute (.pop p)) ws := by
  obtain ⟨rfl, held'⟩ := held.drop
  exact ⟨rfl, held'.of_same (m.drop.cpu.within_setPair named m.top).sp rfl⟩

/-- Restoring word registers takes the words from the front of the list. -/
lemma restores {entries : List (Pair × UInt16)} (run : Restores m entries m')
    (held : Stacked a m (ws ++ st)) (length : entries.length = ws.length) :
    entries.map Prod.snd = List.zipWith Pair.restored (entries.map Prod.fst) ws ∧
      Stacked a m' st ∧ m'.memory = m.memory := by
  induction run generalizing ws with
  | nil m =>
    obtain rfl := List.length_eq_zero_iff.1 length.symm
    exact ⟨rfl, held, rfl⟩
  | @cons m ready m' entries p named between rest ih =>
    rcases ws with - | ⟨w, ws⟩
    · cases length
    · obtain ⟨popped, held'⟩ := (held.of_same between.1 between.2).pop named
      obtain ⟨values, held'', memory⟩ := ih held' (Nat.succ.inj length)
      refine ⟨?_, held'', memory.trans between.2⟩
      have value : (ready.execute (.pop p)).cpu.getPair p = p.restored w := by
        rw [popped, Cpu.getPair_setPair_eq_restored]
      simp only [List.map_cons, List.zipWith_cons_cons, value, values]

/-- Removals into word registers, with nothing in between. -/
lemma foldl_pop {qs : List Pair} (held : Stacked a m (ws ++ st)) (named : ∀ q ∈ qs, q ≠ .sp)
    (length : qs.length = ws.length) :
    (qs.map .pop).foldl execute m =
      { m with cpu := { m.cpu.setPairs (qs.zip ws) with
          sp := m.cpu.sp + UInt16.ofNat (2 * qs.length) } } := by
  induction qs generalizing m ws with
  | nil =>
    have kept : m.cpu.sp + UInt16.ofNat (2 * 0) = m.cpu.sp := UInt16.add_zero m.cpu.sp
    rw [List.length_nil, kept]
    rfl
  | cons q qs ih =>
    rcases ws with - | ⟨w, ws⟩
    · cases length
    · obtain ⟨first, others⟩ := List.forall_mem_cons.1 named
      obtain ⟨popped, held'⟩ := held.pop first
      have rest := ih held' others (Nat.succ.inj length)
      have entries : ∀ e ∈ qs.zip ws, e.1 ≠ .sp := fun e member =>
        others e.1 (List.of_mem_zip member).1
      have register : m.drop.cpu.setPair q w =
          { m.cpu.setPair q w with sp := m.cpu.sp + 2 } := m.cpu.setPair_withSp first w _
      rw [List.map_cons, List.foldl_cons, rest, popped, List.length_cons, ← add_two_add_ofNat,
        register, Cpu.setPairs_withSp _ entries]
      rfl

end Stacked

/-- Pushing word registers, with nothing in between, is pushing the words that they hold. -/
lemma foldl_push (m : Machine) {ps : List Pair} (named : ∀ p ∈ ps, p ≠ .sp) :
    (ps.map .push).foldl execute m = m.pushAll (ps.map m.cpu.getPair) := by
  induction ps generalizing m with
  | nil => rfl
  | cons p ps ih =>
    obtain ⟨-, others⟩ := List.forall_mem_cons.1 named
    have kept : ps.map (m.push (m.cpu.getPair p)).cpu.getPair = ps.map m.cpu.getPair := by
      refine List.map_congr_left fun q member => ?_
      have other := others q member
      cases q with
      | sp => exact absurd rfl other
      | _ => rfl
    have rest := ih (m.push (m.cpu.getPair p)) others
    rw [kept] at rest
    exact rest

/-- Every list of words can be saved: each word can be loaded before it is pushed. -/
lemma exists_saves (m : Machine) (ws : List UInt16) : ∃ m', Saves m ws m' := by
  induction ws generalizing m with
  | nil => exact ⟨m, .nil m⟩
  | cons w ws ih =>
    let ready : Machine := { m with cpu := m.cpu.setPair .bc w }
    obtain ⟨m', rest⟩ := ih (ready.execute (.push .bc))
    have loaded : ready.cpu.getPair .bc = w := m.cpu.getPair_setPair .bc w (by decide)
    have between : m.SameStack ready := ⟨rfl, rfl⟩
    have run := Saves.cons .bc between rest
    rw [loaded] at run
    exact ⟨m', run⟩

/-- Words can be restored into any word registers. -/
lemma exists_restores (m : Machine) {qs : List Pair} (named : ∀ q ∈ qs, q ≠ .sp) :
    ∃ entries m', entries.map Prod.fst = qs ∧ Restores m entries m' := by
  induction qs generalizing m with
  | nil => exact ⟨[], m, rfl, .nil m⟩
  | cons q qs ih =>
    obtain ⟨first, others⟩ := List.forall_mem_cons.1 named
    obtain ⟨entries, m', names, rest⟩ := ih (m.execute (.pop q)) others
    refine ⟨_, m', ?_, .cons q first ⟨rfl, rfl⟩ rest⟩
    exact congrArg (List.cons q) names

end Machine

/-- **The stack is last in, first out.** Let there be room for `n` words below the stack pointer:
`2 * n` bytes in as many cells, none of them in the page of hardware registers or among the
addresses below it at which nothing is stored. Then any `n` words that are pushed come back in
reverse order, after which the stack pointer is where it was; neither the pushes nor the removals
touch another register or another cell.

The same holds of word registers that are pushed and then removed, in whatever order they are named:
each register holds the word that is due, except that the lower half of the flags' byte is clear,
and the other registers hold what they held before. It holds as well if the program computes between
the pushes and between the removals. -/
theorem stack_lastInFirstOut (m : Machine) {n : ℕ}
    (retains : ∀ a ∈ stackBytes m.cpu.sp n, ¬(0xFEA0 ≤ a.toNat ∧ a.toNat ≤ 0xFF7F))
    (apart : ((stackBytes m.cpu.sp n).map canonical).Nodup) :
    (∀ ws : List UInt16, ws.length = n →
      (m.pushAll ws).popAll n = (ws.reverse, { m with memory := (m.pushAll ws).memory }) ∧
      (m.pushAll ws).cpu = { m.cpu with sp := m.cpu.sp - UInt16.ofNat (2 * n) } ∧
      Memory.AgreeOutsideStack m.cpu.sp n m.memory (m.pushAll ws).memory) ∧
    (∀ ps qs : List Pair, ps.length = n → qs.length = n → (∀ p ∈ ps, p ≠ .sp) →
      (∀ q ∈ qs, q ≠ .sp) →
      let pushed := (ps.map .push).foldl Machine.execute m
      let popped := (qs.map .pop).foldl Machine.execute pushed
      pushed.cpu = { m.cpu with sp := m.cpu.sp - UInt16.ofNat (2 * n) } ∧
      popped.cpu = { m.cpu.setPairs (qs.zip (ps.map m.cpu.getPair).reverse) with
        sp := m.cpu.sp } ∧
      popped.memory = pushed.memory ∧
      Memory.AgreeOutsideStack m.cpu.sp n m.memory popped.memory) ∧
    (∀ (c : Cpu) (p : Pair) (w : UInt16), (c.setPair p w).getPair p = p.restored w) ∧
    ∀ ws : List UInt16, ws.length = n →
      (∃ m₁, Machine.Saves m ws m₁) ∧ ∀ m₁, Machine.Saves m ws m₁ →
        (∀ qs : List Pair, (∀ q ∈ qs, q ≠ .sp) →
          ∃ entries m₂, entries.map Prod.fst = qs ∧ Machine.Restores m₁ entries m₂) ∧
        ∀ entries m₂, entries.length = n → Machine.Restores m₁ entries m₂ →
          entries.map Prod.snd =
            List.zipWith Pair.restored (entries.map Prod.fst) ws.reverse ∧
          m₂.cpu.sp = m.cpu.sp ∧
          Memory.AgreeOutsideStack m.cpu.sp n m.memory m₂.memory := by
  have room : StackRoom m.cpu.sp n := ⟨retains, apart⟩
  have empty := Machine.Stacked.empty m
  refine ⟨?_, ?_, Cpu.getPair_setPair_eq_restored, ?_⟩
  · rintro ws rfl
    obtain ⟨-, agree⟩ := empty.pushAll room (Nat.zero_add ws.length).le
    exact ⟨Machine.popAll_pushAll room, congrArg Machine.cpu (m.pushAll_eq ws), agree⟩
  · intro ps qs hp hq named named'
    have length : (ps.map m.cpu.getPair).length = n := by rw [List.length_map, hp]
    have full : ([] : List UInt16).length + (ps.map m.cpu.getPair).length ≤ n := by
      rw [List.length_nil, Nat.zero_add, length]
    obtain ⟨held, agree⟩ := empty.pushAll room full
    have cpu := congrArg Machine.cpu (m.pushAll_eq (ps.map m.cpu.getPair))
    rw [length] at cpu
    have popped := held.foldl_pop named' (by rw [List.length_reverse, length, hq])
    have entries : ∀ e ∈ qs.zip (ps.map m.cpu.getPair).reverse, e.1 ≠ .sp := fun e member =>
      named' e.1 (List.of_mem_zip member).1
    have back : m.cpu.sp - UInt16.ofNat (2 * n) + UInt16.ofNat (2 * n) = m.cpu.sp :=
      UInt16.sub_add_cancel _ _
    simp only [m.foldl_push named]
    rw [popped]
    refine ⟨cpu, ?_, rfl, agree⟩
    simp only [cpu]
    rw [Cpu.setPairs_withSp _ entries, hq, back]
  · rintro ws rfl
    refine ⟨m.exists_saves ws, fun m₁ saves => ⟨fun qs named => m₁.exists_restores named, ?_⟩⟩
    intro entries m₂ length restores
    obtain ⟨held, agree⟩ := empty.saves saves room (Nat.zero_add ws.length).le
    obtain ⟨values, held', memory⟩ := held.restores restores (by
      rw [List.length_reverse, length])
    refine ⟨values, held'.sp.trans (UInt16.sub_zero m.cpu.sp), ?_⟩
    rwa [memory]

/-- A machine whose stack wraps around behind the next byte. -/
def pushingAcrossTheEnd : Machine where
  cpu := { Cpu.powerOn with b := 0x12, c := 0x34, d := 0xAB, e := 0xCD, sp := 0x0001 }
  memory := Memory.powerOn
  lastCycles := 0

/-- The second word goes below the byte that enables interrupts, which the first one replaces. `BC`
and `DE` come back in `HL` and `AF`, and loading other words before they are pushed changes nothing
in that. -/
theorem stack_lastInFirstOut_wraps :
    let m := pushingAcrossTheEnd
    ((∀ a ∈ stackBytes m.cpu.sp 2, ¬(0xFEA0 ≤ a.toNat ∧ a.toNat ≤ 0xFF7F)) ∧
        ((stackBytes m.cpu.sp 2).map canonical).Nodup) ∧
      (m.pushAll [0x1234, 0xABCD]).popAll 2 =
        ([0xABCD, 0x1234], { m with memory := (m.pushAll [0x1234, 0xABCD]).memory }) ∧
      (([.af, .hl].map .pop).foldl Machine.execute
          (([.bc, .de].map .push).foldl Machine.execute m)).cpu =
        { m.cpu with a := 0xAB, flags := Flags.ofByte 0xC0, h := 0x12, l := 0x34 } ∧
      ∃ m₁ entries m₂, Machine.Saves m [0x5678, 0xFFFF] m₁ ∧
        Machine.Restores m₁ entries m₂ ∧ entries.map Prod.fst = [.af, .bc] ∧
        entries.map Prod.snd = [0xFFF0, 0x5678] ∧ m₂.cpu.sp = 0x0001 := by
  intro m
  have retains : ∀ a ∈ stackBytes m.cpu.sp 2, ¬(0xFEA0 ≤ a.toNat ∧ a.toNat ≤ 0xFF7F) := by
    rw [stackBytes, List.forall_mem_map]
    decide
  have apart : ((stackBytes m.cpu.sp 2).map canonical).Nodup := by decide
  obtain ⟨words, registers, -, computing⟩ := stack_lastInFirstOut m retains apart
  refine ⟨⟨retains, apart⟩, (words _ rfl).1, ?_, ?_⟩
  · obtain ⟨-, popped, -, -⟩ :=
      registers [.bc, .de] [.af, .hl] rfl rfl (by decide) (by decide)
    exact popped.trans (by decide)
  · obtain ⟨⟨m₁, saves⟩, later⟩ := computing [0x5678, 0xFFFF] rfl
    obtain ⟨exist, restored⟩ := later m₁ saves
    obtain ⟨entries, m₂, names, restores⟩ := exist [.af, .bc] (by decide)
    have length : entries.length = 2 := by
      rw [← List.length_map Prod.fst, names]
      rfl
    obtain ⟨values, sp, -⟩ := restored entries m₂ length restores
    rw [names] at values
    exact ⟨m₁, entries, m₂, saves, restores, names, values.trans (by decide), sp⟩

end GameBoy
