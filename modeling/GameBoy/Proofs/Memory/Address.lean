import GameBoy.Memory.Cell
import Mathlib.Tactic.Common

/-!
# Addresses of one cell

Two addresses are interchangeable when they name the same cell. `canonical` moves an address of
the echo region down to the work RAM and keeps every other one, and where something is stored, two
addresses name the same cell exactly when their canonical addresses agree (`ofAddress_eq_iff`).
The proofs go through `Cell.IsNamedBy`, which lists the addresses of each cell.
-/

namespace GameBoy

/-- Nothing is stored at the address. -/
def Unusable (a : UInt16) : Prop := 0xFEA0 ≤ a.toNat ∧ a.toNat ≤ 0xFEFF

instance (a : UInt16) : Decidable (Unusable a) := inferInstanceAs (Decidable (_ ∧ _))

/-- The address that stands for all addresses of its cell: the echo region is folded onto the work
RAM below it. -/
def canonical (a : UInt16) : UInt16 :=
  if 0xE000 ≤ a.toNat ∧ a.toNat ≤ 0xFDFF then a - 0x2000 else a

/-- The value of a canonical address. -/
lemma toNat_canonical (a : UInt16) :
    (canonical a).toNat =
      if 0xE000 ≤ a.toNat ∧ a.toNat ≤ 0xFDFF then a.toNat - 0x2000 else a.toNat := by
  unfold canonical
  split_ifs with h
  · have le : (0x2000 : UInt16).toNat ≤ a.toNat := Nat.le_trans (by decide) h.1
    exact UInt16.toNat_sub_of_le a 0x2000 (UInt16.le_iff_toNat_le.2 le)
  · rfl

/-- Folding neither reaches nor leaves the addresses at which nothing is stored. -/
lemma unusable_canonical (a : UInt16) : Unusable (canonical a) ↔ Unusable a := by
  unfold Unusable
  rw [toNat_canonical]
  split_ifs <;> omega

/-- An address of the last two pages stands for its cell. -/
lemma canonical_of_le (a : UInt16) (ha : 0xFE00 ≤ a.toNat) : canonical a = a :=
  if_neg (by omega)

/-- An address of the last two pages stands for itself only. -/
lemma canonical_eq_iff_of_le (a b : UInt16) (ha : 0xFE00 ≤ a.toNat) :
    canonical a = canonical b ↔ b = a := by
  rw [canonical_of_le a ha, ← UInt16.toNat_inj, ← UInt16.toNat_inj, toNat_canonical]
  split_ifs <;> omega

/-- Neighbours never stand for one cell, the last address and the first included. -/
lemma canonical_succ_ne (a : UInt16) : canonical (a + 1) ≠ canonical a := by
  intro same
  have ha := a.toNat_lt
  have succ : (a + 1).toNat = (a.toNat + 1) % 2 ^ 16 := UInt16.toNat_add a 1
  have folded := congrArg UInt16.toNat same
  rw [toNat_canonical, toNat_canonical, succ] at folded
  split_ifs at folded <;> omega

/-- An address below the echo region stands for its cell. -/
lemma canonical_of_lt (a : UInt16) (ha : a.toNat < 0xE000) : canonical a = a :=
  if_neg (by omega)

namespace Cell

/-- The address is one of those that name the cell. -/
def IsNamedBy (c : Cell) (a : UInt16) : Prop :=
  match c with
  | rom i => a.toNat = i
  | videoRam i => a.toNat = 0x8000 + i
  | externalRam i => a.toNat = 0xA000 + i
  | workRam i => a.toNat = 0xC000 + i ∨ (a.toNat = 0xE000 + i ∧ a.toNat ≤ 0xFDFF)
  | objectMemory i => a.toNat = 0xFE00 + i
  | unusable => Unusable a
  | io i => a.toNat = 0xFF00 + i
  | highRam i => a.toNat = 0xFF80 + i
  | interruptEnable => a.toNat = 0xFFFF

/-- The cell that is found for an address is named by it. -/
lemma isNamedBy_ofAddress (a : UInt16) : (ofAddress a).IsNamedBy a := by
  have ha := a.toNat_lt
  unfold ofAddress
  by_cases h₁ : a.toNat < 0x8000
  · rw [dif_pos h₁]
    rfl
  rw [dif_neg h₁]
  by_cases h₂ : a.toNat < 0xA000
  · rw [dif_pos h₂]
    simp only [IsNamedBy]
    omega
  rw [dif_neg h₂]
  by_cases h₃ : a.toNat < 0xC000
  · rw [dif_pos h₃]
    simp only [IsNamedBy]
    omega
  rw [dif_neg h₃]
  by_cases h₄ : a.toNat < 0xE000
  · rw [dif_pos h₄]
    simp only [IsNamedBy]
    omega
  rw [dif_neg h₄]
  by_cases h₅ : a.toNat < 0xFE00
  · rw [dif_pos h₅]
    simp only [IsNamedBy]
    omega
  rw [dif_neg h₅]
  by_cases h₆ : a.toNat < 0xFEA0
  · rw [dif_pos h₆]
    simp only [IsNamedBy]
    omega
  rw [dif_neg h₆]
  by_cases h₇ : a.toNat < 0xFF00
  · rw [if_pos h₇]
    simp only [IsNamedBy, Unusable]
    omega
  rw [if_neg h₇]
  by_cases h₈ : a.toNat < 0xFF80
  · rw [dif_pos h₈]
    simp only [IsNamedBy]
    omega
  rw [dif_neg h₈]
  by_cases h₉ : a.toNat < 0xFFFF
  · rw [dif_pos h₉]
    simp only [IsNamedBy]
    omega
  · rw [dif_neg h₉]
    simp only [IsNamedBy]
    omega

/-- The missing cell is named exactly by the addresses at which nothing is stored. -/
lemma ofAddress_eq_unusable_iff (a : UInt16) : ofAddress a = .unusable ↔ Unusable a := by
  have h := isNamedBy_ofAddress a
  unfold Unusable
  cases e : ofAddress a with
  | unusable => exact ⟨fun _ => by rwa [e] at h, fun _ => rfl⟩
  | _ =>
    rw [e] at h
    simp only [IsNamedBy] at h
    constructor
    · intro h
      cases h
    · intro _
      omega

/-- The addresses of a cell are all folded onto one, unless it is the missing cell. -/
lemma canonical_eq_of_isNamedBy {c : Cell} {a b : UInt16} (present : c ≠ .unusable)
    (ha : c.IsNamedBy a) (hb : c.IsNamedBy b) : canonical a = canonical b := by
  apply UInt16.toNat_inj.1
  rw [toNat_canonical, toNat_canonical]
  cases c with
  | unusable => exact absurd rfl present
  | _ =>
    simp only [IsNamedBy] at ha hb
    split_ifs <;> omega

/-- A canonical address names the same cell. -/
lemma ofAddress_canonical (a : UInt16) : ofAddress (canonical a) = ofAddress a := by
  by_cases h : 0xE000 ≤ a.toNat ∧ a.toNat ≤ 0xFDFF
  · rw [canonical, if_pos h]
    exact (ofAddress_echo a h.1 (by omega)).symm
  · rw [canonical, if_neg h]

/-- Where something is stored, two addresses name the same cell exactly when they are folded onto
the same address. -/
lemma ofAddress_eq_iff (a b : UInt16) (ha : ¬ Unusable a) :
    ofAddress a = ofAddress b ↔ canonical a = canonical b := by
  constructor
  · intro h
    have present : ofAddress a ≠ .unusable := mt (ofAddress_eq_unusable_iff a).1 ha
    have hb := isNamedBy_ofAddress b
    rw [← h] at hb
    exact canonical_eq_of_isNamedBy present (isNamedBy_ofAddress a) hb
  · intro h
    rw [← ofAddress_canonical a, h, ofAddress_canonical b]

end Cell

/-- The address of a place in the page of hardware registers. -/
lemma IoOffset.toNat_address (i : IoOffset) : i.address.toNat = 0xFF00 + i.val := by
  have hi : i.val < 2 ^ 8 := Nat.lt_trans i.isLt (by decide)
  rw [address, Word.toNat_ofBytes, UInt8.toNat_ofNat_of_lt' hi]
  rfl

/-- A place in the page of hardware registers is named by its address only. -/
lemma Cell.ofAddress_eq_io_iff (a : UInt16) (i : IoOffset) :
    ofAddress a = .io i ↔ a = i.address := by
  have h := isNamedBy_ofAddress a
  have hi := i.isLt
  rw [← UInt16.toNat_inj, i.toNat_address]
  cases e : ofAddress a with
  | io j =>
    rw [e] at h
    simp only [IsNamedBy] at h
    simp only [io.injEq, Fin.ext_iff]
    omega
  | _ =>
    rw [e] at h
    simp only [IsNamedBy, Unusable] at h
    constructor
    · intro h
      cases h
    · intro _
      omega

end GameBoy
