/-
  ChatKeys.Proofs.Reset.Grammar

  Which texts are confirmations.

  `ResetConfirmation.Spells` is the grammar: a numeral, the first hyphen of the text, and whole
  pairs of hexadecimal digits.  It speaks of characters only, so whether a text follows it does not
  depend on how texts are read.

    * `parse_eq_ok_iff_spells` — reading gives the number of the numeral and the bytes of the
      pairs;
    * `exists_parse_iff`, `parse_eq_error_iff` — every text that follows the grammar is read, and
      all others are refused alike.
-/
import ChatKeys.Proofs.Reset.Confirmation
import ChatKeys.Proofs.Snowflake.Text

namespace ChatKeys

/-- A numeral has no hyphen in it. -/
theorem Snowflake.IsNumeral.hyphen_notMem {s : String} (h : IsNumeral s) : '-' ∉ s.toList := by
  intro hm
  have hnot : '-' ∉ alphabet := by decide
  exact hnot (h.digits _ hm)

namespace ResetConfirmation

variable {s id code : String}

/-- The text is spelled with an identifier's numeral before its first hyphen, and behind it with
    the hexadecimal digits of a code, two for each byte. -/
structure Spells (s id code : String) : Prop where
  text : s = id ++ "-" ++ code
  first : '-' ∉ id.toList
  numeral : Snowflake.IsNumeral id
  pairs : code.length % 2 = 0
  digits : ∀ c ∈ code.toList, c ∈ Hex.alphabet

/-- The confirmation is what the two parts of a text stand for. -/
def Means (c : ResetConfirmation) (id code : String) : Prop :=
  c.requestId.value.toNat = Snowflake.numeral id.toList ∧
    Hex.nibbles c.mac = code.toList.map Hex.number

/-- A text is read in two parts, with a hyphen between them. -/
theorem parse_eq_ok_iff_parts {c : ResetConfirmation} :
    parse s = .ok c ↔
      ∃ id code, s = id ++ "-" ++ code ∧ Snowflake.parse id = .ok c.requestId ∧
        Hex.decode? code = some c.mac := by
  simp only [parse_eq_ok_iff, Snowflake.parse_eq_ok_iff_parse?, Snowflake.parse?_eq_some_iff,
    Hex.decode?_eq_some_iff]
  constructor
  · rintro ⟨count, id, code, hs, hne, htext, hcode⟩
    exact ⟨id, code, hs, ⟨hne, count, htext⟩, hcode⟩
  · rintro ⟨id, code, hs, ⟨hne, count, htext⟩, hcode⟩
    exact ⟨count, id, code, hs, hne, htext, hcode⟩

theorem decode?_iff_nibbles {b : Bytes} :
    Hex.decode? code = some b ↔
      (code.length % 2 = 0 ∧ ∀ c ∈ code.toList, c ∈ Hex.alphabet) ∧
        Hex.nibbles b = code.toList.map Hex.number := by
  rw [Hex.decode?, Hex.decodeChars?_iff_nibbles, String.length_toList, and_assoc]

/-- A text is read as what its parts stand for, if it follows the grammar. -/
theorem parse_eq_ok_iff_spells {c : ResetConfirmation} :
    parse s = .ok c ↔ ∃ id code, Spells s id code ∧ c.Means id code := by
  simp only [parse_eq_ok_iff_parts, Snowflake.parse_eq_ok_iff, decode?_iff_nibbles]
  constructor
  · rintro ⟨id, code, hs, ⟨hnumeral, hvalue⟩, ⟨hpairs, hdigits⟩, hmac⟩
    exact ⟨id, code, ⟨hs, hnumeral.hyphen_notMem, hnumeral, hpairs, hdigits⟩, hvalue, hmac⟩
  · rintro ⟨id, code, h, hvalue, hmac⟩
    exact ⟨id, code, h.text, ⟨h.numeral, hvalue⟩, ⟨h.pairs, h.digits⟩, hmac⟩

/-- The parts of a text that follows the grammar stand for some confirmation. -/
theorem Spells.exists_means (h : Spells s id code) : ∃ c : ResetConfirmation, c.Means id code := by
  obtain ⟨requestId, hid⟩ := h.numeral.exists_parse
  obtain ⟨mac, hmac⟩ := Hex.exists_decodeChars? (String.length_toList.symm ▸ h.pairs) h.digits
  exact ⟨⟨requestId, mac⟩, (Snowflake.parse_eq_ok_iff.mp hid).2, (decode?_iff_nibbles.mp hmac).2⟩

/-- Every text that follows the grammar is read, and no other. -/
theorem exists_parse_iff : (∃ c, parse s = .ok c) ↔ ∃ id code, Spells s id code := by
  constructor
  · rintro ⟨c, hc⟩
    obtain ⟨id, code, h, -⟩ := parse_eq_ok_iff_spells.mp hc
    exact ⟨id, code, h⟩
  · rintro ⟨id, code, h⟩
    obtain ⟨c, hmeans⟩ := h.exists_means
    exact ⟨c, parse_eq_ok_iff_spells.mpr ⟨id, code, h, hmeans⟩⟩

/-- There is one refusal for all texts that are not read. -/
theorem eq_invalidConfirmationCode_of_parse {e : Error} (h : parse s = .error e) :
    e = .invalidConfirmationCode := by
  simp only [parse] at h
  split at h
  · cases h
  · exact (Except.error.inj h).symm

theorem parse_eq_error_iff {e : Error} :
    parse s = .error e ↔ (¬ ∃ id code, Spells s id code) ∧ e = .invalidConfirmationCode := by
  rw [← exists_parse_iff]
  constructor
  · intro h
    refine ⟨?_, eq_invalidConfirmationCode_of_parse h⟩
    rintro ⟨c, hc⟩
    cases h.symm.trans hc
  · rintro ⟨hnone, rfl⟩
    cases hparse : parse s with
    | ok c => exact absurd ⟨c, hparse⟩ hnone
    | error e => rw [eq_invalidConfirmationCode_of_parse hparse]

/-- Reading accepts exactly the grammar of confirmations. A text is read if and only if it has a
    numeral before its first hyphen and whole pairs of hexadecimal digits of either case behind it,
    possibly none; what is read is the identifier of the numeral's number and the bytes whose
    halves are the digits' numbers. Every other text is refused with one and the same error. Among
    the texts that are read is the one that a request gives, as its own identifier and code. -/
theorem parse_follows_grammar :
    (∀ s c, parse s = .ok c ↔ ∃ id code, Spells s id code ∧ c.Means id code) ∧
    (∀ s, (∃ c, parse s = .ok c) ↔ ∃ id code, Spells s id code) ∧
    (∀ s e, parse s = .error e ↔
      (¬ ∃ id code, Spells s id code) ∧ e = .invalidConfirmationCode) ∧
    ∀ r : ResetRequest, parse r.confirmation = .ok ⟨r.id, r.mac⟩ :=
  ⟨fun _ _ => parse_eq_ok_iff_spells, fun _ => exists_parse_iff, fun _ _ => parse_eq_error_iff,
    ResetRequest.parse_confirmation⟩

/-- A short numeral, capitals among the digits, and a code without digits. -/
example : parse "z-0aFF" = .ok ⟨⟨35⟩, [0x0a, 0xff]⟩ ∧ parse "0-" = .ok ⟨⟨0⟩, []⟩ := by
  decide

/-- Nothing before the hyphen, a second hyphen, and half a pair. -/
example : parse "-00" = .error .invalidConfirmationCode ∧
    parse "0-0-00" = .error .invalidConfirmationCode ∧
    parse "0-000" = .error .invalidConfirmationCode := by
  decide

end ResetConfirmation

end ChatKeys
