import GameBoy.Toml.Document
import GameBoy.Toml.Reader
import Mathlib.Tactic.Common

/-!
# Scalars are read back

A scalar is written without blanks or escapes, and it ends at the end of its line. If a text needs
no escapes and a number fits into 63 bits, then reading what was written gives the same value, and
leaves the rest of the line to be read.
-/

namespace GameBoy.Toml

/-! ## Characters -/

/-- A character of a class is none of the marks outside of it. -/
lemma not_mem_of_outside {p : Char → Bool} {marks : List Char} {c : Char}
    (outside : marks.all fun x => !p x) (inside : p c) : c ∉ marks := by
  intro member
  have found := List.all_eq_true.1 outside c member
  rw [inside] at found
  cases found

/-- What does not start with a blank is left as it is. -/
lemma skipBlanks_cons {c : Char} (space : c ≠ ' ') (tab : c ≠ '\t') (cs : List Char) :
    skipBlanks (c :: cs) = c :: cs := by
  refine List.dropWhile_cons_of_neg ?_
  rw [isBlank, Bool.or_eq_true, beq_iff_eq, beq_iff_eq, not_or]
  exact ⟨space, tab⟩

/-! ## Numbers -/

/-- The value of a decimal digit. -/
lemma value?_of_isDigit {c : Char} (h : c.isDigit) :
    Hex.value? c = some (c.toNat - '0'.toNat) ∧ c.toNat - '0'.toNat < 10 := by
  have bounds : '0' ≤ c ∧ c ≤ '9' := by
    simpa [Char.isDigit, Char.le_def] using h
  have upper : c.toNat ≤ '9'.toNat := UInt32.le_iff_toNat_le.1 (Char.le_def.1 bounds.2)
  constructor
  · exact if_pos bounds
  · have nine : '9'.toNat = 57 := rfl
    have zero : '0'.toNat = 48 := rfl
    omega

/-- A decimal digit continues a number. -/
lemma digitsFrom?_cons {c : Char} (h : c.isDigit) (value : ℕ) (afterDigit : Bool)
    (cs : List Char) :
    digitsFrom? 10 value afterDigit (c :: cs) =
      digitsFrom? 10 (value * 10 + (c.toNat - '0'.toNat)) true cs := by
  obtain ⟨found, small⟩ := value?_of_isDigit h
  have other : c ≠ '_' := by
    rintro rfl
    exact absurd h (by decide)
  rw [digitsFrom?, if_neg other, found]
  exact if_pos small

/-- Decimal digits are read from the left. -/
lemma digitsFrom?_of_isDigit {cs : List Char} (h : ∀ c ∈ cs, c.isDigit) (value : ℕ) :
    digitsFrom? 10 value true cs = some (Nat.ofDigitChars 10 cs value) := by
  induction cs generalizing value with
  | nil => rfl
  | cons c cs ih =>
    obtain ⟨digit, digits⟩ := List.forall_mem_cons.1 h
    rw [digitsFrom?_cons digit, ih digits, Nat.ofDigitChars_cons, Nat.mul_comm]

section Digits

variable (n : ℕ)

lemma isDigit_toDigits : ∀ c ∈ Nat.toDigits 10 n, c.isDigit := fun _ member =>
  Nat.isDigit_of_mem_toDigits (by decide) (by decide) member

/-- Every number has a first digit. -/
lemma exists_cons_toDigits : ∃ c cs, Nat.toDigits 10 n = c :: cs ∧ c.isDigit := by
  obtain ⟨c, cs, e⟩ := List.exists_cons_of_ne_nil (Nat.toDigits_ne_nil (n := n) (b := 10))
  exact ⟨c, cs, e, isDigit_toDigits n c (e ▸ List.mem_cons_self)⟩

/-- The digits of a number write it. -/
lemma digits?_toDigits : digits? 10 (Nat.toDigits 10 n) = some n := by
  have digits := isDigit_toDigits n
  have whole : Nat.ofDigitChars 10 (Nat.toDigits 10 n) 0 = n := Nat.ofDigitChars_ten_toDigits
  obtain ⟨c, cs, e, first⟩ := exists_cons_toDigits n
  rw [e] at digits whole ⊢
  rw [Nat.ofDigitChars_cons, Nat.mul_comm] at whole
  rw [digits?, digitsFrom?_cons first, digitsFrom?_of_isDigit (List.forall_mem_cons.1 digits).2,
    whole]

/-- A number that is not zero has no zero in front. -/
lemma head?_toDigits_ne_zero (pos : 0 < n) : (Nat.toDigits 10 n).head? ≠ some '0' := by
  induction n using Nat.strongRecOn with
  | ind n ih =>
    rw [Nat.toDigits_eq_if (by decide)]
    split_ifs with small
    · have single : ∀ d < 10, 0 < d → [Nat.digitChar d].head? ≠ some '0' := by decide
      exact single n small pos
    · have before := ih (n / 10) (by omega) (by omega)
      obtain ⟨c, cs, e, -⟩ := exists_cons_toDigits (n / 10)
      rwa [e] at before ⊢

/-- The decimal digits of a number write it without a zero in front. -/
lemma decimal?_toDigits : decimal? (Nat.toDigits 10 n) = some n := by
  have whole := digits?_toDigits n
  unfold decimal?
  split
  · next c cs e =>
    rcases Nat.eq_zero_or_pos n with rfl | pos
    · cases e
    · exact absurd (by rw [e]; rfl) (head?_toDigits_ne_zero n pos)
  · exact whole

/-- Decimal digits have no sign in front. -/
lemma splitSign_toDigits : splitSign (Nat.toDigits 10 n) = (false, Nat.toDigits 10 n) := by
  have digits := isDigit_toDigits n
  unfold splitSign
  split
  · next e =>
    rw [e] at digits
    exact absurd (List.forall_mem_cons.1 digits).1 (by decide)
  · next e =>
    rw [e] at digits
    exact absurd (List.forall_mem_cons.1 digits).1 (by decide)
  · rfl

/-- The decimal digits of a number write it as a whole number. -/
lemma wholeNumber?_toDigits : wholeNumber? (Nat.toDigits 10 n) = some (n : Int) := by
  have digits := isDigit_toDigits n
  -- A marker of another base is no digit.
  have marked {x : Char} {cs : List Char} (e : Nat.toDigits 10 n = '0' :: x :: cs) : x.isDigit := by
    rw [e] at digits
    exact (List.forall_mem_cons.1 (List.forall_mem_cons.1 digits).2).1
  unfold wholeNumber?
  split
  · next e => exact absurd (marked e) (by decide)
  · next e => exact absurd (marked e) (by decide)
  · next e => exact absurd (marked e) (by decide)
  · rw [splitSign_toDigits]
    simp only [decimal?_toDigits]
    rfl

/-- A number of 63 bits is read as itself. -/
lemma word?_toDigits (small : n ≤ 0x7FFFFFFFFFFFFFFF) :
    word? (Nat.toDigits 10 n) = some (.integer n) := by
  have digits := isDigit_toDigits n
  have noTruth : Nat.toDigits 10 n ≠ "true".toList := by
    intro e
    rw [e] at digits
    exact absurd (digits 't' (by decide)) (by decide)
  have noFalsity : Nat.toDigits 10 n ≠ "false".toList := by
    intro e
    rw [e] at digits
    exact absurd (digits 'f' (by decide)) (by decide)
  have whole : integer? (Nat.toDigits 10 n) = some (n : Int) := by
    rw [integer?, wholeNumber?_toDigits]
    exact if_pos (by omega)
  rw [word?, if_neg noTruth, if_neg noFalsity, whole]

end Digits

/-! ## Words -/

/-- No character of a word ends it. -/
def IsWord (cs : List Char) : Prop := ∀ c ∈ cs, !endsWord c

instance (cs : List Char) : Decidable (IsWord cs) := decidable_of_iff _ List.all_eq_true

/-- A word goes up to the end of its line. -/
lemma wordOf_append {cs : List Char} (word : IsWord cs) (rest : List Char) :
    wordOf (cs ++ '\n' :: rest) = cs ∧ afterWord (cs ++ '\n' :: rest) = '\n' :: rest := by
  have none : wordOf ('\n' :: rest) = [] := List.takeWhile_cons_of_neg (by decide)
  have all : afterWord ('\n' :: rest) = '\n' :: rest := List.dropWhile_cons_of_neg (by decide)
  constructor
  · rw [wordOf, List.takeWhile_append_of_pos word, ← wordOf, none, List.append_nil]
  · rw [afterWord, List.dropWhile_append_of_pos word, ← afterWord, all]

/-- A word at the end of its line is read. -/
lemma readWord_append {cs : List Char} {v : Value} (word : IsWord cs)
    (value : word? cs = some v) (rest : List Char) :
    readWord (cs ++ '\n' :: rest) = some (v, '\n' :: rest) := by
  obtain ⟨before, after⟩ := wordOf_append word rest
  have single : afterMoment? (cs ++ '\n' :: rest) = none := by
    rw [afterMoment?, after]
    rfl
  rw [readWord, single, before, after, value]
  rfl

/-- What starts with none of the marks of the other values is read as a word. -/
lemma readValue_word {levels fuel : ℕ} {c : Char} {cs : List Char}
    (mark : c ∉ ['"', '\'', '[', '\x7b']) :
    readValue levels (fuel + 1) (c :: cs) = readWord (c :: cs) := by
  simp only [List.mem_cons, List.not_mem_nil, or_false, not_or] at mark
  obtain ⟨double, single, array, table⟩ := mark
  unfold readValue
  split <;> simp_all

/-! ## Texts -/

/-- A text without quotes, backslashes and control characters is read up to its closing quote. -/
lemma readQuoted_plain {cs : List Char} (h : ∀ c ∈ cs, isPlain c ∧ c ≠ '"' ∧ c ≠ '\\')
    (text rest : List Char) :
    readQuoted '"' none text (cs ++ '"' :: rest) =
      some (String.ofList (text.reverse ++ cs), rest) := by
  induction cs generalizing text with
  | nil =>
    rw [List.append_nil]
    rfl
  | cons c cs ih =>
    obtain ⟨⟨plain, quote, backslash⟩, others⟩ := List.forall_mem_cons.1 h
    have next := ih others (c :: text)
    rw [List.reverse_cons, List.append_assoc, List.singleton_append] at next
    rw [List.cons_append, readQuoted]
    simp only [if_neg quote, backslash, false_and, if_false, plain, if_true]
    exact next

/-- Such a text is read as one on a single line. -/
lemma readText_plain {cs : List Char} (h : ∀ c ∈ cs, isPlain c ∧ c ≠ '"' ∧ c ≠ '\\')
    (rest : List Char) :
    readText '"' (cs ++ '"' :: '\n' :: rest) = some (String.ofList cs, '\n' :: rest) := by
  have short : ¬['"', '"'].isPrefixOf (cs ++ '"' :: '\n' :: rest) = true := by
    rcases cs with _ | ⟨c, cs⟩
    · simp [List.isPrefixOf]
    · obtain ⟨-, quote, -⟩ := h c List.mem_cons_self
      simp [List.isPrefixOf, quote.symm]
  rw [readText, if_neg short]
  exact readQuoted_plain h [] _

/-! ## Scalars -/

namespace Scalar

/-- The scalar is read as it is written: a text needs no escapes, and a number has 63 bits. -/
def Legible : Scalar → Prop
  | string s => ∀ c ∈ s.toList, isPlain c ∧ c ≠ '"' ∧ c ≠ '\\'
  | number n => n ≤ 0x7FFFFFFFFFFFFFFF
  | boolean _ => True

/-- Whether a text needs no escapes can be told from its characters. -/
lemma legible_string {s : String}
    (h : s.toList.all fun c => isPlain c && c != '"' && c != '\\') : (string s).Legible := by
  intro c member
  have plain := List.all_eq_true.1 h c member
  simp only [Bool.and_eq_true, bne_iff_ne] at plain
  exact ⟨plain.1.1, plain.1.2, plain.2⟩

variable (levels fuel : ℕ) (rest : List Char)

lemma readValue_string {s : String} (legible : (string s).Legible) :
    readValue levels (fuel + 1) ((string s).text.toList ++ '\n' :: rest) =
      some ((string s).value, '\n' :: rest) := by
  have written : (string s).text.toList ++ '\n' :: rest =
      '"' :: (s.toList ++ '"' :: '\n' :: rest) := by
    simp [text]
  rw [written, readValue, readText_plain legible, String.ofList_toList]
  rfl

/-- A number is written in decimal digits. -/
lemma toList_text_number (n : ℕ) : (number n).text.toList = Nat.toDigits 10 n := by
  rw [text, Nat.toString_eq_ofList_toDigits, String.toList_ofList]

lemma readValue_number {n : ℕ} (legible : (number n).Legible) :
    readValue levels (fuel + 1) ((number n).text.toList ++ '\n' :: rest) =
      some ((number n).value, '\n' :: rest) := by
  have word : IsWord (Nat.toDigits 10 n) := by
    intro c member
    rw [Bool.not_eq_true', Bool.eq_false_iff]
    intro ends
    exact not_mem_of_outside (by decide) (isDigit_toDigits n c member)
      (List.contains_iff_mem.1 ends)
  have read := readWord_append word (word?_toDigits n legible) rest
  obtain ⟨c, cs, e, digit⟩ := exists_cons_toDigits n
  have mark : c ∉ ['"', '\'', '[', '\x7b'] := not_mem_of_outside (by decide) digit
  rw [toList_text_number]
  rw [e, List.cons_append] at read ⊢
  rw [readValue_word mark]
  exact read

lemma readValue_boolean (b : Bool) :
    readValue levels (fuel + 1) ((boolean b).text.toList ++ '\n' :: rest) =
      some ((boolean b).value, '\n' :: rest) := by
  cases b with
  | true =>
    have word : IsWord "true".toList := by decide
    exact (readValue_word (by decide)).trans (readWord_append word rfl rest)
  | false =>
    have word : IsWord "false".toList := by decide
    exact (readValue_word (by decide)).trans (readWord_append word rfl rest)

/-- A scalar starts with no blank. -/
lemma skipBlanks_text (v : Scalar) :
    skipBlanks (v.text.toList ++ rest) = v.text.toList ++ rest := by
  cases v with
  | string s =>
    have written : (string s).text.toList = '"' :: (s.toList ++ ['"']) := by
      simp [text]
    rw [written]
    rfl
  | number n =>
    obtain ⟨c, cs, e, digit⟩ := exists_cons_toDigits n
    rw [toList_text_number, e]
    refine skipBlanks_cons ?_ ?_ _
    · rintro rfl
      cases digit
    · rintro rfl
      cases digit
  | boolean b => cases b <;> rfl

/-- A legible scalar is read back up to the end of its line. -/
theorem readValue_text {v : Scalar} (legible : v.Legible) :
    readValue levels (fuel + 1) (v.text.toList ++ '\n' :: rest) = some (v.value, '\n' :: rest) := by
  cases v with
  | string s => exact readValue_string levels fuel rest legible
  | number n => exact readValue_number levels fuel rest legible
  | boolean b => exact readValue_boolean levels fuel rest b

/-- A number of so many bits is taken as itself. -/
lemma toNat?_value {bits n : ℕ} (small : n < 1 <<< bits) :
    (number n).value.toNat? bits = some n := by
  refine if_pos ⟨Int.natCast_nonneg n, ?_⟩
  rwa [Int.toNat_natCast]

@[simp] theorem toUInt8?_value (x : UInt8) : (number x.toNat).value.toUInt8? = some x := by
  rw [Value.toUInt8?, toNat?_value x.toNat_lt, Option.map_some, UInt8.ofNat_toNat]

@[simp] theorem toUInt16?_value (x : UInt16) : (number x.toNat).value.toUInt16? = some x := by
  rw [Value.toUInt16?, toNat?_value x.toNat_lt, Option.map_some, UInt16.ofNat_toNat]

@[simp] theorem toUInt32?_value (x : UInt32) : (number x.toNat).value.toUInt32? = some x := by
  rw [Value.toUInt32?, toNat?_value x.toNat_lt, Option.map_some, UInt32.ofNat_toNat]

@[simp] theorem toUInt64?_value (x : UInt64) : (number x.toNat).value.toUInt64? = some x := by
  rw [Value.toUInt64?, toNat?_value x.toNat_lt, Option.map_some, UInt64.ofNat_toNat]

@[simp] theorem toBool?_value (b : Bool) : (boolean b).value.toBool? = some b := rfl

@[simp] theorem toChoice?_value (s : String) : (string s).value.toChoice? = some s := rfl

end Scalar

end GameBoy.Toml
