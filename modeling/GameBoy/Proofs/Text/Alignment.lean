import GameBoy.Text.Utf8
import Mathlib.Algebra.Ring.Nat
import Mathlib.Data.List.Infix
import Mathlib.Tactic.Common

/-!
# The ASCII characters of a text

Reading bytes as text keeps the ASCII characters apart. `Utf8.Aligned` relates bytes to a text with
the same ASCII characters in the same order, between two of which there is other text exactly where
there are other bytes. The relation is kept when both sides are continued, and it says enough about
them to find a word of ASCII characters in the text exactly where it is in the bytes.

The reader yields a text that is aligned with its bytes, whatever these are. What is to be excluded
is that bytes of which a character is made, or which are no text at all, become an ASCII character
or nothing. `Partial.Sound` is the invariant that excludes it: all ways to complete a character end
among the characters beyond ASCII.
-/

namespace GameBoy.Utf8

lemma toNat_ofNat {n : ℕ} (valid : n.isValidChar) : (Char.ofNat n).toNat = n := by
  rw [Char.ofNat, dif_pos valid]
  rfl

/-- The character that a byte below `0x80` stands for. -/
def asciiChar (b : UInt8) : Char := Char.ofNat b.toNat

lemma toNat_asciiChar {b : UInt8} (low : b < 0x80) : (asciiChar b).toNat = b.toNat := by
  have small : b.toNat < 0x80 := UInt8.lt_iff_toNat_lt.1 low
  exact toNat_ofNat (.inl (by omega))

lemma asciiChar_inj {a b : UInt8} (ha : a < 0x80) (hb : b < 0x80) :
    asciiChar a = asciiChar b ↔ a = b := by
  constructor
  · intro same
    rw [← UInt8.toNat_inj, ← toNat_asciiChar ha, ← toNat_asciiChar hb, same]
  · rintro rfl
    rfl

/-! ## Alignment -/

/-- Bytes and a text agree in their ASCII characters. -/
inductive Aligned : List UInt8 → List Char → Prop
  | nil : Aligned [] []
  /-- An ASCII character stands for its byte. -/
  | ascii {b : UInt8} {bs : List UInt8} {cs : List Char} (low : b < 0x80) (rest : Aligned bs cs) :
      Aligned (b :: bs) (asciiChar b :: cs)
  /-- Some other characters stand for some other bytes. -/
  | other {part bs : List UInt8} {text cs : List Char} (present : part ≠ [])
      (high : ∀ b ∈ part, 0x80 ≤ b) (shown : text ≠ []) (foreign : ∀ c ∈ text, 0x80 ≤ c.toNat)
      (rest : Aligned bs cs) : Aligned (part ++ bs) (text ++ cs)

namespace Aligned

variable {bs bs' word : List UInt8} {cs cs' : List Char}

lemma append (h : Aligned bs cs) (h' : Aligned bs' cs') : Aligned (bs ++ bs') (cs ++ cs') := by
  induction h with
  | nil => exact h'
  | ascii low _ ih => exact .ascii low ih
  | other present high shown foreign _ ih =>
    rw [List.append_assoc, List.append_assoc]
    exact .other present high shown foreign ih

/-- Bytes beyond ASCII are aligned with a character beyond ASCII. -/
lemma single {part : List UInt8} {c : Char} (present : part ≠ []) (high : ∀ b ∈ part, 0x80 ≤ b)
    (foreign : 0x80 ≤ c.toNat) (rest : Aligned bs cs) : Aligned (part ++ bs) (c :: cs) := by
  have only : ∀ d ∈ [c], 0x80 ≤ d.toNat := List.forall_mem_singleton.2 foreign
  exact .other present high (List.cons_ne_nil c []) only rest

/-- The text begins with a word exactly if the bytes do. -/
lemma prefix_iff (h : Aligned bs cs) (ascii : ∀ b ∈ word, b < 0x80) :
    word.map asciiChar <+: cs ↔ word <+: bs := by
  induction h generalizing word with
  | nil => simp
  | @ascii b bs cs low _ ih =>
    cases word with
    | nil => simp
    | cons w word =>
      obtain ⟨first, others⟩ := List.forall_mem_cons.1 ascii
      rw [List.map_cons, List.cons_prefix_cons, List.cons_prefix_cons, asciiChar_inj first low,
        ih others]
  | @other part bs text cs present high shown foreign _ _ =>
    cases word with
    | nil => simp
    | cons w word =>
      -- Neither side begins with an ASCII character here.
      obtain ⟨p, part, rfl⟩ := List.exists_cons_of_ne_nil present
      obtain ⟨t, text, rfl⟩ := List.exists_cons_of_ne_nil shown
      have first : w < 0x80 := (List.forall_mem_cons.1 ascii).1
      have beyond : 0x80 ≤ p := (List.forall_mem_cons.1 high).1
      have other : 0x80 ≤ t.toNat := (List.forall_mem_cons.1 foreign).1
      have differ : w ≠ p := by
        rintro rfl
        exact absurd first (UInt8.not_lt.2 beyond)
      have differ' : asciiChar w ≠ t := by
        rintro rfl
        rw [toNat_asciiChar first] at other
        exact absurd (UInt8.lt_iff_toNat_lt.1 first) (Nat.not_lt.2 other)
      rw [List.map_cons, List.cons_append, List.cons_append, List.cons_prefix_cons,
        List.cons_prefix_cons]
      simp only [differ, differ', false_and]

end Aligned

/-- A word does not begin in a part where its first letter does not occur. -/
lemma infix_append_iff_of_not_mem {α : Type*} {a : α} {word part rest : List α}
    (absent : a ∉ part) : a :: word <:+: part ++ rest ↔ a :: word <:+: rest := by
  induction part with
  | nil => rfl
  | cons p part ih =>
    obtain ⟨differ, absent⟩ := not_or.1 (mt List.mem_cons.2 absent)
    rw [List.cons_append, List.infix_cons_iff, List.cons_prefix_cons, ih absent]
    simp only [differ, false_and, false_or]

/-- **A word of ASCII characters is in the text exactly if it is in the bytes.** -/
theorem Aligned.infix_iff {bs word : List UInt8} {cs : List Char} (h : Aligned bs cs)
    (nonempty : word ≠ []) (ascii : ∀ b ∈ word, b < 0x80) :
    word.map asciiChar <:+: cs ↔ word <:+: bs := by
  obtain ⟨w, word, rfl⟩ := List.exists_cons_of_ne_nil nonempty
  induction h with
  | nil => simp
  | ascii low rest ih =>
    rw [List.infix_cons_iff, List.infix_cons_iff, (Aligned.ascii low rest).prefix_iff ascii, ih]
  | @other part bs text cs _ high _ foreign _ ih =>
    have first : w < 0x80 := (List.forall_mem_cons.1 ascii).1
    have absent : w ∉ part := fun mem => absurd first (UInt8.not_lt.2 (high w mem))
    have absent' : asciiChar w ∉ text := fun mem => by
      have other := foreign _ mem
      rw [toNat_asciiChar first] at other
      exact absurd (UInt8.lt_iff_toNat_lt.1 first) (Nat.not_lt.2 other)
    rw [List.map_cons, infix_append_iff_of_not_mem absent, infix_append_iff_of_not_mem absent']
    exact ih

/-! ## The reader -/

namespace Partial

/-- The least value that the character can get. -/
def least (p : Partial) : ℕ := (p.value * 64 + p.low.toNat % 64) * 64 ^ p.more

/-- All values that the character can get are below this. -/
def bound (p : Partial) : ℕ := (p.value * 64 + p.high.toNat % 64 + 1) * 64 ^ p.more

/-- Whatever completes the character, bytes beyond ASCII do, and to a character beyond ASCII. -/
structure Sound (p : Partial) : Prop where
  low : 0x80 ≤ p.low.toNat
  high : p.high.toNat < 0xC0
  foreign : 0x80 ≤ p.least
  scalar : p.bound ≤ 0xD800 ∨ (0xE000 ≤ p.least ∧ p.bound ≤ 0x110000)

variable {p : Partial} {b : UInt8}

lemma least_full (v n : ℕ) : (⟨v, n, 0x80, 0xBF⟩ : Partial).least = v * 64 ^ (n + 1) := by
  have zero : (0x80 : UInt8).toNat % 64 = 0 := rfl
  rw [least, zero, Nat.add_zero, Nat.pow_succ', Nat.mul_assoc]

lemma bound_full (v n : ℕ) : (⟨v, n, 0x80, 0xBF⟩ : Partial).bound = (v + 1) * 64 ^ (n + 1) := by
  have last : (0xBF : UInt8).toNat % 64 = 63 := rfl
  rw [bound, last, Nat.pow_succ', ← Nat.mul_assoc, Nat.add_mul v 1, Nat.add_assoc]

/-- The invariant where the full range of continuation bytes may follow. -/
lemma sound_full {v n : ℕ} (foreign : 0x80 ≤ v * 64 ^ (n + 1))
    (scalar : (v + 1) * 64 ^ (n + 1) ≤ 0xD800 ∨
      (0xE000 ≤ v * 64 ^ (n + 1) ∧ (v + 1) * 64 ^ (n + 1) ≤ 0x110000)) :
    (⟨v, n, 0x80, 0xBF⟩ : Partial).Sound := by
  rw [← bound_full, ← least_full] at scalar
  rw [← least_full] at foreign
  exact ⟨Nat.le_refl _, Nat.lt_succ_self _, foreign, scalar⟩

/-- A byte that continues the character leaves an invariant for those that are missing. -/
lemma Sound.next {n : ℕ} (h : p.Sound) (more : p.more = n + 1) (above : p.low ≤ b)
    (below : b ≤ p.high) : (⟨p.value * 64 + b.toNat % 64, n, 0x80, 0xBF⟩ : Partial).Sound := by
  obtain ⟨low, high, foreign, scalar⟩ := h
  rw [UInt8.le_iff_toNat_le] at above below
  have least : p.least ≤ (p.value * 64 + b.toNat % 64) * 64 ^ (n + 1) := by
    rw [Partial.least, more]
    exact Nat.mul_le_mul_right _ (by omega)
  have bound : (p.value * 64 + b.toNat % 64 + 1) * 64 ^ (n + 1) ≤ p.bound := by
    rw [Partial.bound, more]
    exact Nat.mul_le_mul_right _ (by omega)
  refine sound_full (Nat.le_trans foreign least) ?_
  rcases scalar with small | ⟨large, small⟩
  · exact .inl (Nat.le_trans bound small)
  · exact .inr ⟨Nat.le_trans large least, Nat.le_trans bound small⟩

/-- A byte that completes the character makes it one beyond ASCII. -/
lemma Sound.complete (h : p.Sound) (more : p.more = 0) (above : p.low ≤ b) (below : b ≤ p.high) :
    0x80 ≤ (Char.ofNat (p.value * 64 + b.toNat % 64)).toNat := by
  obtain ⟨low, high, foreign, scalar⟩ := h
  rw [UInt8.le_iff_toNat_le] at above below
  rw [Partial.least, Partial.bound, more, Nat.pow_zero, Nat.mul_one, Nat.mul_one] at scalar
  rw [Partial.least, more, Nat.pow_zero, Nat.mul_one] at foreign
  rw [toNat_ofNat (by unfold Nat.isValidChar; omega)]
  omega

end Partial

/-- What the first byte of a character leads to. -/
inductive Lead (b : UInt8) : List Char × State → Prop
  | ascii (low : b < 0x80) : Lead b ([asciiChar b], none)
  | refused (high : 0x80 ≤ b) : Lead b ([replacement], none)
  | opened {p : Partial} (high : 0x80 ≤ b) (sound : p.Sound) : Lead b ([], some p)

lemma lead_cases (b : UInt8) : Lead b (lead b) := by
  unfold lead
  by_cases low : b < 0x80
  · rw [if_pos low]
    exact .ascii low
  have high : 0x80 ≤ b := UInt8.not_lt.1 low
  rw [if_neg low]
  by_cases short : b < 0xC2
  · rw [if_pos short]
    exact .refused high
  rw [if_neg short]
  by_cases two : b < 0xE0
  · rw [if_pos two]
    simp only [UInt8.lt_iff_toNat_lt, UInt8.reduceToNat] at short two
    exact .opened high (Partial.sound_full (by omega) (by omega))
  rw [if_neg two]
  by_cases e0 : b = 0xE0
  · rw [if_pos e0]
    exact .opened high ⟨by decide, by decide, by decide, by decide⟩
  rw [if_neg e0]
  by_cases ed : b = 0xED
  · rw [if_pos ed]
    exact .opened high ⟨by decide, by decide, by decide, by decide⟩
  rw [if_neg ed]
  by_cases three : b < 0xF0
  · -- Two bytes were excluded, after which the value could be too small or that of a surrogate.
    rw [if_pos three]
    simp only [UInt8.lt_iff_toNat_lt, ← UInt8.toNat_inj, UInt8.reduceToNat] at two e0 ed three
    exact .opened high (Partial.sound_full (by omega) (by omega))
  rw [if_neg three]
  by_cases f0 : b = 0xF0
  · rw [if_pos f0]
    exact .opened high ⟨by decide, by decide, by decide, by decide⟩
  rw [if_neg f0]
  by_cases four : b < 0xF4
  · rw [if_pos four]
    simp only [UInt8.lt_iff_toNat_lt, ← UInt8.toNat_inj, UInt8.reduceToNat] at three f0 four
    exact .opened high (Partial.sound_full (by omega) (by omega))
  rw [if_neg four]
  by_cases f4 : b = 0xF4
  · rw [if_pos f4]
    exact .opened high ⟨by decide, by decide, by decide, by decide⟩
  · rw [if_neg f4]
    exact .refused high

/-- What a further byte of a character leads to. -/
inductive Further (b : UInt8) : List Char × State → Prop
  | completed {c : Char} (high : 0x80 ≤ b) (foreign : 0x80 ≤ c.toNat) : Further b ([c], none)
  | continued {p : Partial} (high : 0x80 ≤ b) (sound : p.Sound) : Further b ([], some p)
  | broken : Further b (replacement :: (lead b).1, (lead b).2)

lemma feed_cases {p : Partial} (h : p.Sound) (b : UInt8) : Further b (feed (some p) b) := by
  unfold feed
  dsimp only
  split_ifs with within
  · obtain ⟨above, below⟩ := within
    have high : 0x80 ≤ b :=
      UInt8.le_iff_toNat_le.2 (Nat.le_trans h.low (UInt8.le_iff_toNat_le.1 above))
    cases more : p.more with
    | zero => exact .completed high (h.complete more above below)
    | succ n => exact .continued high (h.next more above below)
  · exact .broken

/-- Reading from within a character, of which some bytes were read already. -/
def AlignedWithin (bs : List UInt8) : Prop :=
  ∀ (p : Partial) (part : List UInt8), p.Sound → part ≠ [] → (∀ b ∈ part, 0x80 ≤ b) →
    Aligned (part ++ bs) (decodeFrom (some p) bs)

lemma aligned_lead {b : UInt8} {bs : List UInt8} (between : Aligned bs (decodeFrom none bs))
    (within : AlignedWithin bs) :
    Aligned (b :: bs) ((lead b).1 ++ decodeFrom (lead b).2 bs) := by
  have outcome := lead_cases b
  generalize lead b = result at outcome
  cases outcome with
  | ascii low => exact .ascii low between
  | refused high =>
    exact .single (List.cons_ne_nil _ _) (List.forall_mem_singleton.2 high) (by decide) between
  | opened high sound =>
    exact within _ [b] sound (List.cons_ne_nil _ _) (List.forall_mem_singleton.2 high)

/-- The reader is aligned with what it reads, from between characters and from within one. -/
lemma aligned_decodeFrom (bs : List UInt8) :
    Aligned bs (decodeFrom none bs) ∧ AlignedWithin bs := by
  induction bs with
  | nil =>
    refine ⟨.nil, fun p part _ present high => ?_⟩
    exact .single present high (by decide) .nil
  | cons b bs ih =>
    obtain ⟨between, within⟩ := ih
    have start := aligned_lead (b := b) between within
    refine ⟨start, fun p part sound present high => ?_⟩
    have longer : part ++ [b] ≠ [] := List.append_ne_nil_of_left_ne_nil present _
    have higher (last : 0x80 ≤ b) : ∀ x ∈ part ++ [b], 0x80 ≤ x :=
      List.forall_mem_append.2 ⟨high, List.forall_mem_singleton.2 last⟩
    rw [decodeFrom]
    have outcome := feed_cases sound b
    generalize feed (some p) b = result at outcome
    cases outcome with
    | completed last foreign =>
      rw [List.append_cons]
      exact .single longer (higher last) foreign between
    | continued next sound =>
      rw [List.append_cons]
      exact within _ _ sound longer (higher next)
    | broken => exact .single present high (by decide) start

/-- **A text is aligned with the bytes that it was read from.** -/
theorem aligned_decode (bs : List UInt8) : Aligned bs (decode bs) := (aligned_decodeFrom bs).1

end GameBoy.Utf8
