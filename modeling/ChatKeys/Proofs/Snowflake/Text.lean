/-
  ChatKeys.Proofs.Snowflake.Text

  The texts of identifiers are numbers to base 36, and sort as these numbers do.

  What a text stands for is said without the functions that read and write it: `alphabet` lists
  the digits in the order of their numbers, `numeral` is the number of a sequence of digits, and
  `IsNumeral` holds of the texts that name an identifier.

    * `readDigits?_eq_some_iff` — reading gives the numeral of a sequence of digits, and nothing
      for any other sequence;
    * `digits_lt_digits_iff` — written with equally many digits, the greater of two numbers is the
      later of the two texts;
    * `parse_eq_ok_iff` — so exactly the numerals are read, each as the identifier of its number.
-/
import Mathlib.Data.Nat.Digits.Defs
import ChatKeys.Proofs.Snowflake

namespace ChatKeys.Snowflake

/-! ## Numerals -/

/-- The digits, each at the place of its number. -/
def alphabet : List Char := "0123456789abcdefghijklmnopqrstuvwxyz".toList

/-- The number that a sequence of digits stands for to base 36, the last digit counting once. -/
def numeral (cs : List Char) : Nat :=
  Nat.ofDigits 36 (cs.reverse.map alphabet.idxOf)

/-- In the alphabet are the digits that numbers are written with. -/
theorem mem_alphabet_iff {c : Char} : c ∈ alphabet ↔ ∃ n < 36, digit n = c := by
  have hdigits : alphabet = (List.range 36).map digit := by decide
  rw [hdigits]
  simp only [List.mem_map, List.mem_range]

@[simp] theorem numeral_nil : numeral [] = 0 := rfl

/-- A digit behind others moves them up by one place. -/
theorem numeral_append_singleton (cs : List Char) (c : Char) :
    numeral (cs ++ [c]) = numeral cs * 36 + alphabet.idxOf c := by
  rw [numeral, List.reverse_append, List.reverse_singleton, List.singleton_append, List.map_cons,
    Nat.ofDigits_cons]
  simp only [numeral]
  omega

/-- A character has a number exactly if it is in the alphabet, and then it has that of its
    place. -/
theorem digitValue?_eq_some_iff {c : Char} {n : Nat} :
    digitValue? c = some n ↔ c ∈ alphabet ∧ alphabet.idxOf c = n := by
  have hplace : ∀ n < 36, alphabet.idxOf (digit n) = n := by decide
  rw [mem_alphabet_iff]
  constructor
  · intro h
    obtain ⟨hlt, rfl⟩ := digit_of_digitValue? h
    exact ⟨⟨n, hlt, rfl⟩, hplace n hlt⟩
  · rintro ⟨⟨m, hlt, rfl⟩, hn⟩
    rw [hplace m hlt] at hn
    rw [digitValue?_digit m hlt, hn]

/-- Reading gives the numeral of a sequence of digits, and nothing for any other sequence. -/
theorem readDigits?_eq_some_iff {cs : List Char} {n : Nat} :
    readDigits? 0 cs = some n ↔ (∀ c ∈ cs, c ∈ alphabet) ∧ numeral cs = n := by
  -- From the back, where the digit of the least weight stands.
  induction cs using List.reverseRecOn generalizing n with
  | nil => simp [readDigits?]
  | append_singleton cs c ih =>
    simp only [readDigits?_append, readDigits?, Option.bind_eq_bind, Option.bind_eq_some_iff,
      Option.some.injEq, ih, digitValue?_eq_some_iff, numeral_append_singleton,
      List.forall_mem_append, List.forall_mem_singleton]
    constructor
    · rintro ⟨_, ⟨hfront, rfl⟩, _, ⟨hlast, rfl⟩, rfl⟩
      exact ⟨⟨hfront, hlast⟩, rfl⟩
    · rintro ⟨⟨hfront, hlast⟩, rfl⟩
      exact ⟨_, ⟨hfront, rfl⟩, _, ⟨hlast, rfl⟩, rfl⟩

/-! ## Order -/

/-- The order of two sequences is decided before whatever follows them, if they are equally
    long. -/
theorem append_lt_append {front front' : List Char} (h : front < front')
    (hlength : front.length = front'.length) (back back' : List Char) :
    front ++ back < front' ++ back' := by
  replace h : List.Lex (· < ·) front front' := h
  show List.Lex (· < ·) (front ++ back) (front' ++ back')
  induction h with
  | nil => cases hlength
  | rel hc => exact .rel hc
  | cons _ ih => exact .cons (ih (Nat.succ.inj hlength))

theorem digit_lt_digit {m n : Nat} (hn : n < 36) (h : m < n) : digit m < digit n := by
  have htoNat : ∀ n < 36, (digit n).toNat = if n < 10 then 48 + n else 87 + n := by decide
  show (digit m).toNat < (digit n).toNat
  rw [htoNat n hn, htoNat m (Nat.lt_trans h hn)]
  split <;> split <;> omega

/-- The greater of two numbers has the later digits. -/
theorem digits_lt_digits {width m n : Nat} (hn : n < 36 ^ width) (h : m < n) :
    digits width m < digits width n := by
  -- The digits but the last are those of the numbers divided by the base.
  induction width generalizing m n with
  | zero =>
    have hzero : n = 0 := Nat.lt_one_iff.mp hn
    omega
  | succ w ih =>
    have hquotient : n / 36 < 36 ^ w := by
      rw [Nat.pow_succ] at hn
      omega
    rcases Nat.lt_or_eq_of_le (Nat.div_le_div_right (c := 36) (Nat.le_of_lt h)) with hlt | heq
    · have hfront := ih hquotient hlt
      exact append_lt_append hfront (by rw [length_digits, length_digits]) _ _
    · have hlast : m % 36 < n % 36 := by omega
      rw [digits, digits, heq]
      exact List.append_left_lt (.rel (digit_lt_digit (Nat.mod_lt _ (by decide)) hlast))

/-- Numbers with equally many digits sort as their digits do. -/
theorem digits_lt_digits_iff {width m n : Nat} (hm : m < 36 ^ width) (hn : n < 36 ^ width) :
    digits width m < digits width n ↔ m < n := by
  constructor
  · intro h
    by_contra hle
    rcases Nat.lt_or_eq_of_le (Nat.le_of_not_lt hle) with hlt | rfl
    · exact List.lt_asymm h (digits_lt_digits hm hlt)
    · exact List.lt_irrefl _ h
  · exact digits_lt_digits hn

/-- Every word has a text of thirteen digits. -/
theorem value_lt_pow (id : Snowflake) : id.value.toNat < 36 ^ textLength :=
  Nat.lt_trans id.value.toNat_lt (by decide)

theorem toList_text (id : Snowflake) : id.text.toList = digits textLength id.value.toNat :=
  String.toList_ofList

/-- Identifiers sort as their texts do. -/
theorem text_lt_text_iff (a b : Snowflake) : a.text < b.text ↔ a < b := by
  rw [String.lt_iff, toList_text, toList_text,
    digits_lt_digits_iff a.value_lt_pow b.value_lt_pow]
  exact UInt64.lt_iff_toNat_lt.symm

/-! ## Which texts are read -/

/-- A text of one to thirteen digits, of a number that fits into a word. -/
structure IsNumeral (s : String) : Prop where
  length_pos : 1 ≤ s.length
  length_le : s.length ≤ 13
  digits : ∀ c ∈ s.toList, c ∈ alphabet
  numeral_lt : numeral s.toList < 2 ^ 64

theorem parse_eq_ok_iff_parse? {s : String} {id : Snowflake} :
    parse s = .ok id ↔ parse? s = some id := by
  rw [parse]
  cases parse? s with
  | none => simp only [reduceCtorEq]
  | some other => simp only [Except.ok.injEq, Option.some.injEq]

/-- A text is read as an identifier exactly if it is a numeral, of the identifier's number. -/
theorem parse_eq_ok_iff {s : String} {id : Snowflake} :
    parse s = .ok id ↔ IsNumeral s ∧ id.value.toNat = numeral s.toList := by
  rw [parse_eq_ok_iff_parse?]
  simp only [parse?, ↓guard_eq_ite, Option.bind_eq_bind, Option.bind_eq_some_iff, Option.pure_def,
    Option.ite_none_right_eq_some, Option.some.injEq, readDigits?_eq_some_iff, String.length_toList]
  constructor
  · rintro ⟨-, ⟨⟨hpos, hle⟩, -⟩, n, ⟨hdigits, rfl⟩, -, ⟨hlt, -⟩, rfl⟩
    exact ⟨⟨hpos, hle, hdigits, hlt⟩, UInt64.toNat_ofNat_of_lt hlt⟩
  · rintro ⟨h, hvalue⟩
    refine ⟨(), ⟨⟨h.length_pos, h.length_le⟩, trivial⟩, _, ⟨h.digits, rfl⟩,
      (), ⟨h.numeral_lt, trivial⟩, ?_⟩
    rw [← hvalue, UInt64.ofNat_toNat]

/-- Every numeral is read. -/
theorem IsNumeral.exists_parse {s : String} (h : IsNumeral s) : ∃ id, parse s = .ok id :=
  ⟨⟨UInt64.ofNat (numeral s.toList)⟩,
    parse_eq_ok_iff.mpr ⟨h, UInt64.toNat_ofNat_of_lt h.numeral_lt⟩⟩

/-- Any other text is refused, and the refusal holds it. -/
theorem parse_of_not_isNumeral {s : String} (h : ¬ IsNumeral s) : parse s = .error ⟨s⟩ := by
  have hnone : parse? s = none := by
    cases hparse : parse? s with
    | none => rfl
    | some id => exact absurd (parse_eq_ok_iff.mp (parse_eq_ok_iff_parse?.mpr hparse)).1 h
  rw [parse, hnone]

/-- What is read is filled up with zeros to the text of what it is read as. -/
theorem leftpad_of_parse {s : String} {id : Snowflake} (h : parse s = .ok id) :
    s.toList.leftpad 13 '0' = id.text.toList := by
  obtain ⟨-, count, hfilled⟩ := parse?_eq_some_iff.mp (parse_eq_ok_iff_parse?.mp h)
  -- The number of zeros is what the length of the text leaves.
  have hlength := congrArg List.length hfilled
  rw [List.length_append, List.length_replicate, toList_text, length_digits] at hlength
  have hcount : 13 - s.toList.length = count := Nat.sub_eq_of_eq_add hlength.symm
  rw [List.leftpad, hcount, hfilled]

/-- Texts are a faithful code for identifiers, which keeps their order. The text of every
    identifier has thirteen digits, is the numeral of its value and is read back as it, and of
    two identifiers the lesser has the earlier text. Of all texts exactly the numerals are read:
    those of one to thirteen digits whose number is below 2 ^ 64. A numeral is read as the
    identifier of this number, whose text is the numeral behind zeros; every other text is
    refused with an error that quotes it. -/
theorem text_faithful :
    (∀ id : Snowflake, id.text.length = 13 ∧ (∀ c ∈ id.text.toList, c ∈ alphabet) ∧
      numeral id.text.toList = id.value.toNat ∧ parse id.text = .ok id) ∧
    (∀ a b : Snowflake, a.value.toNat < b.value.toNat ↔ a.text < b.text) ∧
    ∀ s : String,
      (∀ id, parse s = .ok id ↔ IsNumeral s ∧ id.value.toNat = numeral s.toList) ∧
      (IsNumeral s → ∃ id, parse s = .ok id ∧ id.text.toList = s.toList.leftpad 13 '0') ∧
      (¬ IsNumeral s → ∃ e, parse s = .error e ∧ e.text = s ∧
        e.message = "invalid snowflake: " ++ Text.quoted s) := by
  refine ⟨fun id => ?_, fun a b => ?_,
    fun s => ⟨fun id => parse_eq_ok_iff, fun h => ?_, fun h => ?_⟩⟩
  · obtain ⟨hnumeral, hvalue⟩ := parse_eq_ok_iff.mp id.parse_text
    exact ⟨id.length_text, hnumeral.digits, hvalue.symm, id.parse_text⟩
  · rw [text_lt_text_iff]
    exact UInt64.lt_iff_toNat_lt.symm
  · obtain ⟨id, hid⟩ := h.exists_parse
    exact ⟨id, hid, (leftpad_of_parse hid).symm⟩
  · exact ⟨⟨s⟩, parse_of_not_isNumeral h, rfl, rfl⟩

/-- One digit is read and filled up, and the largest number of thirteen digits, which does not
    fit, is refused. -/
theorem text_faithful_example :
    (∃ id, parse "z" = .ok id ∧ id.value.toNat = 35 ∧
      id.text.toList = "000000000000z".toList) ∧
    ∃ e, parse "zzzzzzzzzzzzz" = .error e ∧
      e.message = "invalid snowflake: " ++ Text.quoted "zzzzzzzzzzzzz" := by
  obtain ⟨-, -, hall⟩ := text_faithful
  constructor
  · have hdigits : ∀ c ∈ "z".toList, c ∈ alphabet := List.forall_mem_singleton.mpr (by decide)
    have hnumeral : IsNumeral "z" := ⟨by decide, by decide, hdigits, by decide⟩
    obtain ⟨hread, hfilled, -⟩ := hall "z"
    obtain ⟨id, hid, htext⟩ := hfilled hnumeral
    exact ⟨id, hid, ((hread id).mp hid).2, htext⟩
  · have hlarge : ¬ IsNumeral "zzzzzzzzzzzzz" := fun h => absurd h.numeral_lt (by decide)
    obtain ⟨e, he, -, hmessage⟩ := (hall "zzzzzzzzzzzzz").2.2 hlarge
    exact ⟨e, he, hmessage⟩

end ChatKeys.Snowflake
