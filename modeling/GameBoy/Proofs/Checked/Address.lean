import GameBoy.Memory.Basic
import GameBoy.Memory.Region
import GameBoy.Proofs.Checked.Arithmetic
import GameBoy.Proofs.Memory.Address

/-!
# Checked addresses

The cell that an address names carries its index with a proof that there is something at it. A
machine without such proofs finds the region of the address, takes the first address of the region
from it, and uses the difference as an index into the region's store; for an address of the echo
region it first starts again with one in the work RAM. `mapAddress` does this with checks, and its
number of calls is counted. That it always succeeds is a matter of three tables that know nothing of
each other: the bounds of the regions, what each region is counted from, and the sizes of the
stores. `exists_mapAddress` compares them, once and for all addresses, with the cell.
-/

namespace GameBoy

namespace Checked

variable {α : Type} {n : ℕ}

/-- What is at an index. -/
def index (v : Vector α n) (i : ℕ) : Checked α :=
  if h : i < n then .ok v[i] else .error (.outOfBounds i n)

/-- Replaces what is at an index. -/
def update (v : Vector α n) (i : ℕ) (x : α) : Checked (Vector α n) :=
  if h : i < n then .ok (v.set i x) else .error (.outOfBounds i n)

lemma index_eq (v : Vector α n) {i : ℕ} (h : i < n) : index v i = .ok v[i] := dif_pos h

lemma update_eq (v : Vector α n) {i : ℕ} (h : i < n) (x : α) : update v i x = .ok (v.set i x) :=
  dif_pos h

end Checked

open Checked

/-! ## Regions and cells -/

namespace Region

variable {a : UInt16} {r : Region}

/-- The address is one of the region's. -/
def Holds (r : Region) (a : UInt16) : Prop := r.first.toNat ≤ a.toNat ∧ a.toNat ≤ r.last.toNat

/-- The number of addresses of a region. -/
def size (r : Region) : ℕ := r.last.toNat + 1 - r.first.toNat

/-- The offset of an address of a region is less than the region's size. -/
lemma Holds.offset_lt (h : r.Holds a) : a.toNat - r.first.toNat < r.size := by
  obtain ⟨above, below⟩ := h
  unfold size
  omega

/-- An address of a region is the first one moved by the offset. -/
lemma Holds.eq_add (h : r.Holds a) : a.toNat = r.first.toNat + (a.toNat - r.first.toNat) :=
  (Nat.add_sub_cancel' h.1).symm

/-- An address from the first one of a region on is one of that region or of those behind it. -/
lemma holds_ite {rest : Region} (from' : r.first.toNat ≤ a.toNat)
    (behind : r.last.toNat + 1 ≤ a.toNat → rest.Holds a) :
    (if a ≤ r.last then r else rest).Holds a := by
  split_ifs with within
  · exact ⟨from', UInt16.le_iff_toNat_le.1 within⟩
  · exact behind (Nat.lt_of_not_le fun h => within (UInt16.le_iff_toNat_le.2 h))

/-- An address is one of its region. The regions follow each other without a gap, so that each
begins where the search has come to. -/
lemma holds_ofAddress (a : UInt16) : (ofAddress a).Holds a := by
  unfold ofAddress
  refine holds_ite (Nat.zero_le _) fun h => holds_ite h fun h => holds_ite h fun h => ?_
  refine holds_ite h fun h => holds_ite h fun h => holds_ite h fun h => holds_ite h fun h => ?_
  refine holds_ite h fun h => holds_ite h fun h => holds_ite h fun h => holds_ite h fun h => ?_
  exact ⟨h, Nat.le_of_lt_succ a.toNat_lt⟩

end Region

/-- The cell of an address is the one that it is known to name. -/
lemma Cell.ofAddress_eq {a : UInt16} {c : Cell} (named : c.IsNamedBy a) : ofAddress a = c := by
  have found := isNamedBy_ofAddress a
  generalize ofAddress a = d at found
  cases c <;> cases d <;> simp only [IsNamedBy, Unusable] at named found <;>
    first
    | rfl
    | exact congrArg _ (Fin.ext (by omega))
    | omega

/-! ## Where an address leads -/

/-- The place that an address leads to: a store and an index into it, or a bank of the work RAM and
an index into the bank. -/
inductive MappedAddress where
  | rom (i : ℕ)
  | videoRam (i : ℕ)
  | externalRam (i : ℕ)
  | workRam (bank offset : ℕ)
  | objectMemory (i : ℕ)
  | unusable
  | io (a : UInt16)
  | highRam (i : ℕ)
  | interruptEnable
  deriving DecidableEq, Repr

/-- The place that an address leads to, found with so many nested calls at most. -/
def mapAddress (calls : ℕ) (a : UInt16) : Checked MappedAddress := do
  let region := Region.ofAddress a
  let offset ← difference a.toNat region.first.toNat
  match region with
  | .romBank0 | .romBank1 => return .rom a.toNat
  | .videoRam => return .videoRam offset
  | .externalRam => return .externalRam offset
  | .workRamBank0 => return .workRam 0 offset
  | .workRamBank1 => return .workRam 1 offset
  | .echoRam =>
    match calls with
    | 0 => .error .nested
    | calls + 1 => do
      let below ← difference a.toNat 0x2000
      mapAddress calls (UInt16.ofNat below)
  | .objectMemory => return .objectMemory offset
  | .unusable => return .unusable
  | .ioRegisters => return .io a
  | .highRam => return .highRam offset
  | .interruptEnable => return .interruptEnable

/-- A place is that of a cell, and all its indices are within their stores. -/
inductive MappedAddress.IsAt : MappedAddress → Cell → Prop
  | rom (i : Fin 0x8000) : IsAt (.rom i) (.rom i)
  | videoRam (i : Fin 0x2000) : IsAt (.videoRam i) (.videoRam i)
  | externalRam (i : Fin 0x2000) : IsAt (.externalRam i) (.externalRam i)
  | workRam (bank : Fin 2) (offset : Fin 0x1000) :
      IsAt (.workRam bank offset) (.workRam ⟨0x1000 * bank + offset, by omega⟩)
  | objectMemory (i : Fin 0xA0) : IsAt (.objectMemory i) (.objectMemory i)
  | unusable : IsAt .unusable .unusable
  | io (i : IoOffset) : IsAt (.io i.address) (.io i)
  | highRam (i : Fin 0x7F) : IsAt (.highRam i) (.highRam i)
  | interruptEnable : IsAt .interruptEnable .interruptEnable

/-- A place of the cell that an address is known to name is that of the address. -/
lemma MappedAddress.IsAt.of_named {p : MappedAddress} {c : Cell} {a : UInt16}
    (place : p.IsAt c) (named : c.IsNamedBy a) : p.IsAt (Cell.ofAddress a) := by
  rwa [Cell.ofAddress_eq named]

/-- Outside of the echo region, the place is found without a further call. -/
lemma exists_mapAddress_of_ne (calls : ℕ) {a : UInt16} (direct : Region.ofAddress a ≠ .echoRam) :
    ∃ p, mapAddress calls a = .ok p ∧ p.IsAt (Cell.ofAddress a) := by
  have holds := Region.holds_ofAddress a
  unfold mapAddress
  dsimp only
  rw [difference_eq holds.1, ok_bind]
  generalize Region.ofAddress a = region at direct holds
  -- In each region, the offset is that of the cell, and the region is as large as its store.
  cases region with
  | echoRam => exact absurd rfl direct
  | romBank0 | romBank1 =>
    have inside : a.toNat < 0x8000 := Nat.lt_of_le_of_lt holds.2 (by decide)
    exact ⟨_, rfl, .of_named (.rom ⟨a.toNat, inside⟩) rfl⟩
  | videoRam =>
    have inside : a.toNat - 0x8000 < 0x2000 := holds.offset_lt
    exact ⟨_, rfl, .of_named (.videoRam ⟨a.toNat - 0x8000, inside⟩) holds.eq_add⟩
  | externalRam =>
    have inside : a.toNat - 0xA000 < 0x2000 := holds.offset_lt
    exact ⟨_, rfl, .of_named (.externalRam ⟨a.toNat - 0xA000, inside⟩) holds.eq_add⟩
  | workRamBank0 =>
    have inside : a.toNat - 0xC000 < 0x1000 := holds.offset_lt
    have named : a.toNat = 0xC000 + (0x1000 * 0 + (a.toNat - 0xC000)) := by
      rw [Nat.mul_zero, Nat.zero_add]
      exact holds.eq_add
    exact ⟨_, rfl, .of_named (.workRam 0 ⟨a.toNat - 0xC000, inside⟩) (.inl named)⟩
  | workRamBank1 =>
    have inside : a.toNat - 0xD000 < 0x1000 := holds.offset_lt
    have named : a.toNat = 0xC000 + (0x1000 * 1 + (a.toNat - 0xD000)) := by
      rw [← Nat.add_assoc]
      exact holds.eq_add
    exact ⟨_, rfl, .of_named (.workRam 1 ⟨a.toNat - 0xD000, inside⟩) (.inl named)⟩
  | objectMemory =>
    have inside : a.toNat - 0xFE00 < 0xA0 := holds.offset_lt
    exact ⟨_, rfl, .of_named (.objectMemory ⟨a.toNat - 0xFE00, inside⟩) holds.eq_add⟩
  | unusable => exact ⟨_, rfl, .of_named .unusable holds⟩
  | ioRegisters =>
    have inside : a.toNat - 0xFF00 < 0x80 := holds.offset_lt
    obtain ⟨i, rfl⟩ : ∃ i : IoOffset, a = i.address := by
      refine ⟨⟨a.toNat - 0xFF00, inside⟩, UInt16.toNat_inj.1 ?_⟩
      rw [IoOffset.toNat_address]
      exact holds.eq_add
    exact ⟨_, rfl, .of_named (.io i) i.toNat_address⟩
  | highRam =>
    have inside : a.toNat - 0xFF80 < 0x7F := holds.offset_lt
    exact ⟨_, rfl, .of_named (.highRam ⟨a.toNat - 0xFF80, inside⟩) holds.eq_add⟩
  | interruptEnable =>
    have last : a.toNat = 0xFFFF := Nat.le_antisymm holds.2 holds.1
    exact ⟨_, rfl, .of_named .interruptEnable last⟩

/-- Every address leads to the place of its cell, after one further call at most. -/
theorem exists_mapAddress (a : UInt16) :
    ∃ p, mapAddress 1 a = .ok p ∧ p.IsAt (Cell.ofAddress a) := by
  by_cases echo : Region.ofAddress a = .echoRam
  · obtain ⟨above, below⟩ := Region.holds_ofAddress a
    rw [echo] at above below
    have le : 0x2000 ≤ a.toNat := Nat.le_trans (by decide) above
    have lower : UInt16.ofNat (a.toNat - 0x2000) = a - 0x2000 := by
      rw [← UInt16.toNat_inj, UInt16.toNat_sub_of_le a 0x2000 (UInt16.le_iff_toNat_le.2 le)]
      exact UInt16.toNat_ofNat_of_lt' (Nat.lt_of_le_of_lt (Nat.sub_le _ _) a.toNat_lt)
    have direct : Region.ofAddress (a - 0x2000) ≠ .echoRam := by
      intro echo'
      have above' := (Region.holds_ofAddress (a - 0x2000)).1
      rw [echo', UInt16.toNat_sub_of_le a 0x2000 (UInt16.le_iff_toNat_le.2 le)] at above'
      simp only [Region.first, Region.last, UInt16.reduceToNat] at above' below
      omega
    obtain ⟨p, found, at'⟩ := exists_mapAddress_of_ne 0 direct
    have again : mapAddress 1 a = mapAddress 0 (a - 0x2000) := by
      conv_lhs => unfold mapAddress
      dsimp only
      rw [echo, difference_eq above, ok_bind]
      dsimp only
      rw [difference_eq le, ok_bind, ← lower]
    refine ⟨p, again.trans found, ?_⟩
    rwa [Cell.ofAddress_echo a above (Nat.lt_succ_of_le below)]
  · exact exists_mapAddress_of_ne 1 echo

/-- The further call is needed. -/
example : mapAddress 0 0xE000 = .error .nested := by cbv

end GameBoy
