/-
  ChatKeys.Proofs.Snowflake

  The text form of an identifier is read back as the identifier (`parse_text`):
  the thirteen digits written are the lowest thirteen of the number
  (`readDigits?_digits`), and a word has no more.  Reading takes shorter texts as
  well: `parse?_eq_some_iff` says which are read as which identifier.
-/
import Mathlib.Data.List.Induction
import ChatKeys.Proofs.Results
import ChatKeys.Snowflake

namespace ChatKeys.Snowflake

theorem readDigits?_append (n : Nat) (front back : List Char) :
    readDigits? n (front ++ back) = (readDigits? n front).bind (readDigits? · back) := by
  induction front generalizing n with
  | nil => rfl
  | cons c front ih =>
    simp only [List.cons_append, readDigits?]
    cases digitValue? c with
    | none => rfl
    | some d => exact ih _

/-- Reading the lowest digits of a number gives the number modulo their weight. -/
theorem readDigits?_digits (start width n : Nat) :
    readDigits? start (digits width n) = some (start * 36 ^ width + n % 36 ^ width) := by
  -- The highest digits are read first: they are those of the number without its last one.
  induction width generalizing n with
  | zero => simp [digits, readDigits?, Nat.mod_one]
  | succ w ih =>
    have hd : digitValue? (digit (n % 36)) = some (n % 36) :=
      digitValue?_digit _ (Nat.mod_lt _ (by decide))
    have hmod : n % 36 ^ (w + 1) = n % 36 + 36 * (n / 36 % 36 ^ w) := by
      rw [Nat.pow_succ, Nat.mul_comm, Nat.mod_mul]
    simp only [digits, readDigits?_append, ih, Option.bind_some, readDigits?, hd,
      Option.bind_eq_bind]
    rw [hmod, Nat.pow_succ]
    congr 1
    have hassoc : start * (36 ^ w * 36) = start * 36 ^ w * 36 := (Nat.mul_assoc ..).symm
    omega

/-- The text form of an identifier is read back as the identifier. -/
@[simp] theorem parse_text (s : Snowflake) : parse s.text = .ok s := by
  -- Thirteen digits are enough for every word, so nothing is lost modulo their weight.
  have hlt : s.value.toNat < 36 ^ textLength := Nat.lt_trans s.value.toNat_lt (by decide)
  have hparse : parse? s.text = some s := by
    simp only [parse?, text, String.toList_ofList, length_digits, readDigits?_digits, Nat.zero_mul,
      Nat.zero_add, Nat.mod_eq_of_lt hlt, ↓guard_eq_ite, Option.bind_eq_bind, Option.pure_def]
    rw [if_pos ⟨by decide, Nat.le_refl _⟩, Option.bind_some, Option.bind_some,
      if_pos s.value.toNat_lt, Option.bind_some, UInt64.ofNat_toNat]
  rw [parse, hparse]

theorem length_text (s : Snowflake) : s.text.length = textLength := by
  rw [text, String.length_ofList, length_digits]

theorem text_ne_empty (s : Snowflake) : s.text ≠ "" := by
  intro h
  have hlength := s.length_text
  rw [h] at hlength
  cases hlength

/-! ## All spellings -/

/-- A character has a number only if it is the digit of that number. -/
theorem digit_of_digitValue? {c : Char} {n : Nat} (h : digitValue? c = some n) :
    n < 36 ∧ digit n = c := by
  have hc : Char.ofNat c.toNat = c := Char.ofNat_toNat c
  simp only [digitValue?] at h
  split at h
  · next hr =>
    cases h
    refine ⟨by omega, ?_⟩
    rw [digit, if_pos (by omega), show 48 + (c.toNat - 48) = c.toNat by omega, hc]
  · split at h
    · next hr =>
      cases h
      refine ⟨by omega, ?_⟩
      rw [digit, if_neg (by omega), show 87 + (c.toNat - 87) = c.toNat by omega, hc]
    · cases h

/-- A number has one spelling of each length. -/
theorem eq_digits_of_readDigits? {cs : List Char} {n : Nat} (h : readDigits? 0 cs = some n) :
    cs = digits cs.length n := by
  -- From the back, as the digits of a number are made.
  induction cs using List.reverseRecOn generalizing n with
  | nil => rfl
  | append_singleton cs c ih =>
    simp only [readDigits?_append, readDigits?, Option.bind_eq_bind, Option.bind_eq_some_iff,
      Option.some.injEq] at h
    obtain ⟨front, hfront, last, hlast, rfl⟩ := h
    obtain ⟨hlt, hdigit⟩ := digit_of_digitValue? hlast
    rw [List.length_append, List.length_singleton, digits,
      show (front * 36 + last) / 36 = front by omega,
      show (front * 36 + last) % 36 = last by omega, ← ih hfront, hdigit]

/-- Zeros in front do not change a number. -/
theorem readDigits?_zeros (count : Nat) (cs : List Char) :
    readDigits? 0 (List.replicate count '0' ++ cs) = readDigits? 0 cs := by
  induction count with
  | zero => rfl
  | succ n ih => exact ih

/-- A text is read as an identifier exactly if it is the identifier's text form, of
    which any number of zeros in front may be missing, but not all characters. -/
theorem parse?_eq_some_iff {s : String} {id : Snowflake} :
    parse? s = some id ↔
      s ≠ "" ∧ ∃ count, List.replicate count '0' ++ s.toList = id.text.toList := by
  have hempty : s ≠ "" ↔ 1 ≤ s.toList.length := by
    rw [Nat.one_le_iff_ne_zero, Ne, Ne, List.length_eq_zero_iff, String.toList_eq_nil_iff]
  have htext : id.text.toList = digits textLength id.value.toNat := String.toList_ofList
  simp only [parse?, ↓guard_eq_ite, Option.bind_eq_bind, Option.bind_eq_some_iff, Option.pure_def,
    Option.ite_none_right_eq_some, Option.some.injEq, htext, hempty]
  constructor
  · rintro ⟨-, ⟨⟨hpos, hle⟩, -⟩, n, hn, -, ⟨hlt, -⟩, rfl⟩
    refine ⟨hpos, textLength - s.toList.length, ?_⟩
    -- Filled up with zeros the text has the length of the text form and the same number.
    have hvalue : (UInt64.ofNat n).toNat = n := UInt64.toNat_ofNat_of_lt hlt
    have hfilled := eq_digits_of_readDigits?
      ((readDigits?_zeros (textLength - s.toList.length) s.toList).trans hn)
    rw [List.length_append, List.length_replicate, Nat.sub_add_cancel hle] at hfilled
    rw [hvalue]
    exact hfilled
  · rintro ⟨hpos, count, hfilled⟩
    have hlength := congrArg List.length hfilled
    rw [List.length_append, List.length_replicate, length_digits] at hlength
    have hlt : id.value.toNat < 36 ^ textLength := Nat.lt_trans id.value.toNat_lt (by decide)
    have hn : readDigits? 0 s.toList = some id.value.toNat := by
      rw [← readDigits?_zeros count, hfilled, readDigits?_digits, Nat.mod_eq_of_lt hlt,
        Nat.zero_mul, Nat.zero_add]
    refine ⟨(), ⟨⟨hpos, by omega⟩, trivial⟩, _, hn, (), ⟨id.value.toNat_lt, trivial⟩, ?_⟩
    rw [UInt64.ofNat_toNat]

end ChatKeys.Snowflake
