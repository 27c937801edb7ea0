import GameBoy.Proofs.Machine.Branch
import GameBoy.Proofs.Machine.CarryChain

/-!
# Additions of words

The processor adds words in two ways, and both are additions of bytes. A word register is added to
`HL` as a chain of two bytes: the lower bytes are added, and then the upper ones with the carry; the
carries of the word, out of bits 11 and 15, are those of the upper bytes. A signed offset is added
to the stack pointer as one byte without a sign: its carries, out of bits 3 and 7, are those of the
lower byte. The upper byte takes the carry, less one if the offset is negative, for then its byte is
256 too large.

`IsBytewiseSum` says what the addition byte by byte leaves, in terms of the instructions for bytes.
-/

namespace GameBoy

/-! ## The sums -/

/-- The bytes of a word are the digits of its value. -/
lemma Word.bytes_of_toNat {w : UInt16} {h l : UInt8} (value : w.toNat = 256 * h.toNat + l.toNat) :
    low w = l ∧ high w = h := by
  rw [← toNat_ofBytes, UInt16.toNat_inj] at value
  rw [value]
  exact ⟨low_ofBytes h l, high_ofBytes h l⟩

/-- A word is its bytes in base 256. -/
lemma Word.toNat_eq (w : UInt16) : w.toNat = 256 * (high w).toNat + (low w).toNat := by
  rw [← toNat_ofBytes, ofBytes_high_low]

/-- The value of a signed byte differs from that of its bits by 256, if it is negative. -/
lemma toInt_eq_toUInt8 (e : Int8) :
    e.toInt = e.toUInt8.toNat - 256 * (if e.toInt < 0 then 1 else 0) := by
  have lt := e.toUInt8.toNat_lt
  have value : e.toInt = if 2 * e.toUInt8.toNat < 2 ^ 8 then (e.toUInt8.toNat : ℤ)
      else e.toUInt8.toNat - (2 ^ 8 : ℕ) := e.toBitVec.toInt_eq_toNat_cond
  split at value <;> split <;> omega

namespace Alu

variable {x y : UInt16} {e : Int8} {r s : UInt8} {f g : Flags}

/-- Two words are added like their lower bytes, and then their upper bytes with the carry. -/
lemma addWords_of_isSum (lower : IsSum (Word.low x) (Word.low y) false r f)
    (upper : IsSum (Word.high x) (Word.high y) f.carry s g) (before : Flags) :
    Word.low (addWords x y before).1 = r ∧ Word.high (addWords x y before).1 = s ∧
      (addWords x y before).2 =
        { zero := before.zero
          subtract := false
          halfCarry := g.halfCarry
          carry := g.carry } := by
  have exact := lower.exact
  have exact' := upper.exact
  rw [Bool.toNat_false, Nat.add_zero] at exact
  have hx := Word.toNat_eq x
  have hy := Word.toNat_eq y
  have hl := (Word.low x).toNat_lt
  have hl' := (Word.low y).toNat_lt
  have hr := r.toNat_lt
  have hs := s.toNat_lt
  have total : (x + y).toNat = 256 * s.toNat + r.toNat := by
    rw [UInt16.toNat_add]
    omega
  have half : decide (0x0FFF < x.toNat % 0x1000 + y.toNat % 0x1000) = g.halfCarry := by
    rw [Bool.eq_iff_iff, decide_eq_true_iff, upper.halfCarry]
    omega
  have carry : decide (0xFFFF < x.toNat + y.toNat) = g.carry := by
    rw [Bool.eq_iff_iff, decide_eq_true_iff, (eq_mod_of_carry hs exact').2]
    omega
  obtain ⟨low, high⟩ := Word.bytes_of_toNat total
  refine ⟨low, high, ?_⟩
  rw [addWords, half, carry]

/-- An offset is added like its byte to the lower byte. -/
lemma addOffset_of_isSum (lower : IsSum (Word.low x) e.toUInt8 false r f) :
    Word.low (addOffset x e).1 = r ∧
      ((Word.high (addOffset x e).1).toNat : ℤ) =
        ((Word.high x).toNat + f.carry.toNat - (if e.toInt < 0 then 1 else 0)) % 256 ∧
      (addOffset x e).2 =
        { zero := false
          subtract := false
          halfCarry := f.halfCarry
          carry := f.carry } := by
  have exact := lower.exact
  rw [Bool.toNat_false, Nat.add_zero] at exact
  have hx := Word.toNat_eq x
  have hl := (Word.low x).toNat_lt
  have hr := r.toNat_lt
  have he := toInt_eq_toUInt8 e
  have total := Word.toNat_displace x e
  have half : decide (0x0F < x.toNat % 0x10 + e.toUInt8.toNat % 0x10) = f.halfCarry := by
    rw [Bool.eq_iff_iff, decide_eq_true_iff, lower.halfCarry, Bool.toNat_false]
    omega
  have carry : decide (0xFF < x.toNat % 0x100 + e.toUInt8.toNat) = f.carry := by
    rw [Bool.eq_iff_iff, decide_eq_true_iff, (eq_mod_of_carry hr exact).2]
    omega
  refine ⟨?_, ?_, ?_⟩
  · change Word.low (Word.displace x e) = r
    rw [← UInt8.toNat_inj, Word.toNat_low]
    omega
  · change ((Word.high (Word.displace x e)).toNat : ℤ) = _
    rw [Word.toNat_high]
    omega
  · rw [addOffset, half, carry]

end Alu

/-! ## Byte by byte -/

namespace CarryChain

variable {op : Arithmetic} {m m' : Machine} {x y : UInt8} {xs ys rs : List UInt8}

/-- What the first pass of a chain leaves. -/
lemma exists_pass (chain : CarryChain op m (x :: xs) (y :: ys) rs m') :
    ∃ (before : Flags) (done : Machine) (rest : List UInt8),
      before.carry = m.cpu.flags.carry ∧ rs = (op.apply x y before).1 :: rest ∧
      done.cpu.flags = (op.apply x y before).2 ∧ CarryChain op.continuation done xs ys rest m' := by
  cases chain with
  | @cons _ _ ready done _ _ _ rest loads s kept loaded passed others =>
    refine ⟨ready.cpu.flags, done, rest, ?_, ?_, ?_, others⟩
    · rw [← loaded]
      exact m.carry_foldl_execute kept
    · rw [← passed]
      rfl
    · rw [← passed]
      rfl

/-- A chain without bytes does nothing. -/
lemma eq_of_nil (chain : CarryChain op m [] [] rs m') : rs = [] ∧ m' = m := by
  cases chain
  exact ⟨rfl, rfl⟩

/-- What a chain that adds one byte leaves. -/
lemma add_one (chain : CarryChain .add m [x] [y] rs m') :
    ∃ r, rs = [r] ∧ Alu.IsSum x y false r m'.cpu.flags := by
  obtain ⟨before, done, rest, -, rfl, flags, others⟩ := chain.exists_pass
  obtain ⟨rfl, rfl⟩ := others.eq_of_nil
  refine ⟨_, rfl, ?_⟩
  rw [flags]
  exact Alu.isSum_add x y false

/-- What a chain that adds two bytes leaves. -/
lemma add_two {x' y' : UInt8} (chain : CarryChain .add m [x, x'] [y, y'] rs m') :
    ∃ r r' between, rs = [r, r'] ∧ Alu.IsSum x y false r between ∧
      Alu.IsSum x' y' between.carry r' m'.cpu.flags := by
  obtain ⟨_, between, rest, -, rfl, flags, others⟩ := chain.exists_pass
  obtain ⟨before, done, rest, carry, rfl, flags', others'⟩ := others.exists_pass
  obtain ⟨rfl, rfl⟩ := others'.eq_of_nil
  refine ⟨_, _, between.cpu.flags, rfl, ?_, ?_⟩
  · rw [flags]
    exact Alu.isSum_add x y false
  · rw [flags', ← carry]
    exact Alu.isSum_add x' y' before.carry

end CarryChain

/-- The bytes `rs` and the two carries of the flags `f` are what the addition of the bytes `xs` and
`ys` leaves, byte by byte: every chain of additions leaves them, from whatever machine, and there is
one from every machine. -/
structure IsBytewiseSum (xs ys rs : List UInt8) (f : Flags) : Prop where
  /-- There is a chain of additions. -/
  exists_chain : ∀ m, ∃ rs' m', CarryChain .add m xs ys rs' m'
  /-- It leaves the bytes and the carries. -/
  eq_of_chain : ∀ m rs' m', CarryChain .add m xs ys rs' m' →
    rs' = rs ∧ m'.cpu.flags.halfCarry = f.halfCarry ∧ m'.cpu.flags.carry = f.carry

namespace Alu

/-- The sum of two words is that of their bytes. -/
lemma isBytewiseSum_addWords (x y : UInt16) (before : Flags) :
    IsBytewiseSum [Word.low x, Word.high x] [Word.low y, Word.high y]
      [Word.low (addWords x y before).1, Word.high (addWords x y before).1]
      (addWords x y before).2 where
  exists_chain m := CarryChain.exists_of_length_eq .add m rfl
  eq_of_chain m rs m' chain := by
    obtain ⟨r, r', between, rfl, lower, upper⟩ := chain.add_two
    obtain ⟨low, high, flags⟩ := addWords_of_isSum lower upper before
    rw [low, high, flags]
    exact ⟨rfl, rfl, rfl⟩

/-- The lower byte of a word that is moved is the sum of two bytes. -/
lemma isBytewiseSum_addOffset (w : UInt16) (e : Int8) :
    IsBytewiseSum [Word.low w] [e.toUInt8] [Word.low (addOffset w e).1] (addOffset w e).2 where
  exists_chain m := CarryChain.exists_of_length_eq .add m rfl
  eq_of_chain m rs m' chain := by
    obtain ⟨r, rfl, lower⟩ := chain.add_one
    obtain ⟨low, -, flags⟩ := addOffset_of_isSum lower
    rw [low, flags]
    exact ⟨rfl, rfl, rfl⟩

end Alu

/-- **Words are added byte by byte.** Adding a word register to `HL` leaves in `H` and `L` the
bytes, and in the flags the two carries, that adding the lower bytes and then the upper ones with
the carry leaves; it keeps the zero flag, and `HL` added to itself is doubled. Adding a signed
offset to the stack pointer makes the same word, whether it goes back or into `HL`. Its lower byte
and the two carries are those of the addition of the offset's byte to the lower byte of the stack
pointer; its upper byte is that of the stack pointer with the carry, less one for a negative offset.
The other two flags are clear. -/
theorem word_addition_bytewise (m : Machine) :
    (∀ p : Pair, ∃ w f,
      m.execute (.addHl p) = { m with cpu := { m.cpu.setHl w with flags := f } } ∧
      IsBytewiseSum [m.cpu.l, m.cpu.h]
        [Word.low (m.cpu.getPair p), Word.high (m.cpu.getPair p)] [Word.low w, Word.high w] f ∧
      f.subtract = false ∧ f.zero = m.cpu.flags.zero) ∧
    (m.execute (.addHl .hl)).cpu.hl.toNat = 2 * m.cpu.hl.toNat % 2 ^ 16 ∧
    ∀ e : Int8, ∃ w f,
      m.execute (.addSp e) = { m with cpu := { m.cpu with sp := w, flags := f } } ∧
      m.execute (.loadHlSp e) = { m with cpu := { m.cpu.setHl w with flags := f } } ∧
      (w.toNat : ℤ) = (m.cpu.sp.toNat + e.toInt) % 2 ^ 16 ∧
      IsBytewiseSum [Word.low m.cpu.sp] [e.toUInt8] [Word.low w] f ∧
      ((Word.high w).toNat : ℤ) = ((Word.high m.cpu.sp).toNat + f.carry.toNat -
        (if e.toInt < 0 then 1 else 0)) % 256 ∧
      f.zero = false ∧ f.subtract = false := by
  refine ⟨?_, ?_, ?_⟩
  · intro p
    refine ⟨_, _, rfl, ?_, rfl, rfl⟩
    have bytes := Alu.isBytewiseSum_addWords m.cpu.hl (m.cpu.getPair p) m.cpu.flags
    rwa [Cpu.hl, Word.low_ofBytes, Word.high_ofBytes] at bytes
  · have sum : (m.execute (.addHl .hl)).cpu.hl = m.cpu.hl + m.cpu.hl := Word.ofBytes_high_low _
    rw [sum, UInt16.toNat_add, Nat.two_mul]
  · intro e
    have lower := Alu.isSum_add (Word.low m.cpu.sp) e.toUInt8 false
    obtain ⟨-, high, flags⟩ := Alu.addOffset_of_isSum lower
    refine ⟨(Alu.addOffset m.cpu.sp e).1, (Alu.addOffset m.cpu.sp e).2, rfl, rfl,
      Word.toNat_displace m.cpu.sp e, Alu.isBytewiseSum_addOffset m.cpu.sp e, ?_, rfl, rfl⟩
    rw [flags]
    exact high

end GameBoy
