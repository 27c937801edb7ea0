import GameBoy.Proofs.Text.Alignment

/-!
# Texts that are read in parts

A reader that gets its bytes in parts can go on where it stood, or it can begin anew with every part
and take each for a text of its own. The two agree as long as no part goes on with a character that
the bytes before it have begun. Where one does, the reader that begins anew cannot make up for it:
it shows a replacement for the beginning of the character and others for the rest, and so has shown
more characters than the one that went on, whatever follows.
-/

namespace GameBoy.Utf8

/-- Where the reader stands after some bytes. -/
def after (s : State) (bs : List UInt8) : State := bs.foldl (fun s b => (feed s b).2) s

/-- The characters that are complete after some bytes. -/
def shown (s : State) : List UInt8 → List Char
  | [] => []
  | b :: bs => (feed s b).1 ++ shown (feed s b).2 bs

/-- The bytes go on with the character that the reader is within. -/
def Continues : State → List UInt8 → Prop
  | some p, b :: _ => p.low ≤ b ∧ b ≤ p.high
  | _, _ => False

instance : (s : State) → (bs : List UInt8) → Decidable (Continues s bs)
  | none, _ => inferInstanceAs (Decidable False)
  | some _, [] => inferInstanceAs (Decidable False)
  | some p, b :: _ => inferInstanceAs (Decidable (p.low ≤ b ∧ b ≤ p.high))

/-- Whatever completes the character that the reader is within, makes it one beyond ASCII. -/
def State.Sound (s : State) : Prop := ∀ p, s = some p → p.Sound

variable {s : State} {as bs : List UInt8}

/-! ## Going on -/

lemma after_append : after s (as ++ bs) = after (after s as) bs := List.foldl_append

lemma decodeFrom_cons (b : UInt8) :
    decodeFrom s (b :: bs) = (feed s b).1 ++ decodeFrom (feed s b).2 bs := rfl

/-- Reading can be interrupted and taken up again. -/
lemma decodeFrom_append (s : State) (as bs : List UInt8) :
    decodeFrom s (as ++ bs) = shown s as ++ decodeFrom (after s as) bs := by
  induction as generalizing s with
  | nil => rfl
  | cons a as ih =>
    rw [List.cons_append, decodeFrom_cons, ih, shown, List.append_assoc]
    rfl

/-- At the end, only the character that the reader is within is added. -/
lemma decodeFrom_eq : decodeFrom s as = shown s as ++ finish (after s as) := by
  have whole := decodeFrom_append s as []
  rwa [List.append_nil] at whole

lemma sound_lead (b : UInt8) : State.Sound (lead b).2 := by
  have outcome := lead_cases b
  generalize lead b = result at outcome
  intro p open'
  cases outcome with
  | ascii low => cases open'
  | refused high => cases open'
  | opened high sound =>
    obtain rfl := Option.some.inj open'
    exact sound

lemma State.Sound.feed (sound : s.Sound) (b : UInt8) : State.Sound (Utf8.feed s b).2 := by
  cases s with
  | none => exact sound_lead b
  | some p =>
    have outcome := feed_cases (sound p rfl) b
    generalize Utf8.feed (some p) b = result at outcome
    intro q open'
    cases outcome with
    | completed high foreign => cases open'
    | continued high sound =>
      obtain rfl := Option.some.inj open'
      exact sound
    | broken => exact sound_lead b q open'

lemma State.Sound.after (sound : s.Sound) (bs : List UInt8) : State.Sound (Utf8.after s bs) := by
  induction bs generalizing s with
  | nil => exact sound
  | cons b bs ih => exact ih (sound.feed b)

/-! ## Beginning anew -/

lemma Continues.append (h : Continues s as) : Continues s (as ++ bs) := by
  cases s with
  | none => cases h
  | some p =>
    cases as with
    | nil => cases h
    | cons a as => exact h

/-- Where nothing is continued, a reader that begins anew shows the same. -/
lemma decodeFrom_of_not_continues (h : ¬ Continues s bs) :
    decodeFrom s bs = finish s ++ decode bs := by
  cases s with
  | none => rfl
  | some p =>
    cases bs with
    | nil => rfl
    | cons b bs =>
      have broken : feed (some p) b = (replacement :: (lead b).1, (lead b).2) := if_neg h
      rw [decodeFrom_cons, broken]
      rfl

/-- A byte that continues a character is refused as the first of one. -/
lemma lead_of_within {p : Partial} {b : UInt8} (sound : p.Sound) (above : p.low ≤ b)
    (below : b ≤ p.high) : lead b = ([replacement], none) := by
  have low := sound.low
  have high := sound.high
  rw [UInt8.le_iff_toNat_le] at above below
  have beyond : ¬ b < 0x80 := by
    simp only [UInt8.lt_iff_toNat_lt, UInt8.reduceToNat]
    omega
  have early : b < 0xC2 := by
    simp only [UInt8.lt_iff_toNat_lt, UInt8.reduceToNat]
    omega
  rw [lead, if_neg beyond, if_pos early]

/-- A byte that continues a character completes at most that one. -/
lemma length_feed_le {p : Partial} {b : UInt8} (within : p.low ≤ b ∧ b ≤ p.high) :
    (feed (some p) b).1.length + (finish (feed (some p) b).2).length ≤ 1 := by
  unfold feed
  dsimp only
  rw [if_pos within]
  cases p.more <;> exact Nat.le_refl 1

/-- A reader that goes on shows no more than one that begins anew, and less where something is
continued. -/
lemma length_decodeFrom (sound : s.Sound) (bs : List UInt8) :
    (decodeFrom s bs).length ≤ (finish s).length + (decode bs).length ∧
      (Continues s bs → (decodeFrom s bs).length < (finish s).length + (decode bs).length) := by
  induction bs generalizing s with
  | nil =>
    refine ⟨Nat.le_refl _, fun h => ?_⟩
    cases s <;> cases h
  | cons b bs ih =>
    by_cases h : Continues s (b :: bs)
    · cases s with
      | none => cases h
      | some p =>
        -- The byte completes or continues a character; on its own, it is shown as a replacement.
        have alone : decode (b :: bs) = replacement :: decode bs := by
          rw [decode, decodeFrom_cons, feed, lead_of_within (sound p rfl) h.1 h.2]
          rfl
        have next := (ih (sound.feed b)).1
        have one := length_feed_le h
        have less : (decodeFrom (some p) (b :: bs)).length <
            (finish (some p)).length + (decode (b :: bs)).length := by
          rw [decodeFrom_cons, List.length_append, alone, List.length_cons, finish,
            List.length_singleton]
          omega
        exact ⟨Nat.le_of_lt less, fun _ => less⟩
    · rw [decodeFrom_of_not_continues h, List.length_append]
      exact ⟨Nat.le_refl _, fun continues => absurd continues h⟩

lemma sound_none : State.Sound none := fun _ absurd => nomatch absurd

/-- The text of a whole is no longer than the texts of its parts. -/
lemma length_decode_append_le (as bs : List UInt8) :
    (decode (as ++ bs)).length ≤ (decode as ++ decode bs).length := by
  have rest := (length_decodeFrom (sound_none.after as) bs).1
  have whole : decode (as ++ bs) = shown none as ++ decodeFrom (after none as) bs :=
    decodeFrom_append none as bs
  have part : decode as = shown none as ++ finish (after none as) := decodeFrom_eq
  rw [whole, part, List.length_append, List.length_append, List.length_append]
  omega

lemma length_decode_flatten_le (parts : List (List UInt8)) :
    (decode parts.flatten).length ≤ (parts.flatMap decode).length := by
  induction parts with
  | nil => exact Nat.le_refl 0
  | cons part parts ih =>
    rw [List.flatten_cons, List.flatMap_cons]
    refine (length_decode_append_le part parts.flatten).trans ?_
    rw [List.length_append, List.length_append]
    omega

/-! ## Parts of a whole -/

/-- What holds of all parts with those before them, holds of the first and of the others. -/
lemma forall_split_cons_iff {α : Type*} {a : α} {l : List α} {P : List α → α → Prop} :
    (∀ earlier x later, a :: l = earlier ++ x :: later → P earlier x) ↔
      P [] a ∧ ∀ earlier x later, l = earlier ++ x :: later → P (a :: earlier) x := by
  constructor
  · intro h
    refine ⟨h [] a l rfl, fun earlier x later split => h (a :: earlier) x later ?_⟩
    rw [split, List.cons_append]
  · rintro ⟨first, others⟩ earlier x later split
    cases earlier with
    | nil =>
      obtain ⟨rfl, -⟩ := List.cons.inj split
      exact first
    | cons y earlier =>
      obtain ⟨rfl, rest⟩ := List.cons.inj split
      exact others earlier x later rest

/-- Going on through all parts shows the same as beginning anew with each of them exactly if no part
goes on with a character that those before it have begun. -/
theorem decodeFrom_flatten_iff (sound : s.Sound) (parts : List (List UInt8)) :
    decodeFrom s parts.flatten = finish s ++ parts.flatMap decode ↔
      ∀ earlier part later, parts = earlier ++ part :: later →
        ¬ Continues (after s earlier.flatten) part := by
  induction parts generalizing s with
  | nil => simp [decodeFrom]
  | cons part parts ih =>
    rw [forall_split_cons_iff (P := fun earlier part => ¬ Continues (after s earlier.flatten) part),
      List.flatten_cons, List.flatMap_cons]
    by_cases h : Continues s part
    · have less := (length_decodeFrom sound (part ++ parts.flatten)).2 h.append
      refine iff_of_false (fun same => ?_) (fun all => all.1 h)
      have whole := length_decode_append_le part parts.flatten
      have others := length_decode_flatten_le parts
      rw [same, List.length_append, List.length_append] at less
      rw [List.length_append] at whole
      omega
    · have here : finish s ++ decode part = shown s part ++ finish (after s part) := by
        rw [← decodeFrom_of_not_continues h, decodeFrom_eq]
      rw [decodeFrom_append, ← List.append_assoc, here, List.append_assoc,
        List.append_cancel_left_eq, ih (sound.after part)]
      simp only [List.flatten_cons, after_append]
      exact ⟨fun others => ⟨h, others⟩, fun all => all.2⟩

end GameBoy.Utf8
