/-
  ChatKeys.Proofs.Text.Utf8

  The UTF-8 form of a text, character by character.

    * `Bytes.ofChars` — the UTF-8 form of a list of characters; `ofString` is
      the same for the list of a text (`ofString_eq_ofChars`);
    * an ASCII character is one byte, its own number (`utf8EncodeChar_ascii`);
      every byte of another character is at least 0x80 (`le_of_mem_utf8EncodeChar`);
    * texts that have the same UTF-8 form are equal (`ofString_inj`), and what reads as a
      text is its UTF-8 form (`toString?_eq_some_iff`).
-/
import ChatKeys.Bytes

namespace ChatKeys

namespace Bytes

/-- The UTF-8 form of a list of characters. -/
def ofChars (cs : List Char) : Bytes :=
  cs.flatMap String.utf8EncodeChar

@[simp] theorem ofChars_nil : ofChars [] = [] := rfl

@[simp] theorem ofChars_cons (c : Char) (cs : List Char) :
    ofChars (c :: cs) = String.utf8EncodeChar c ++ ofChars cs := by
  simp [ofChars]

@[simp] theorem ofChars_append (front back : List Char) :
    ofChars (front ++ back) = ofChars front ++ ofChars back := by
  simp [ofChars]

@[simp] theorem ofString_ofList (cs : List Char) : ofString (String.ofList cs) = ofChars cs := by
  simp [ofString, ofChars, List.utf8Encode]

theorem ofString_eq_ofChars (s : String) : ofString s = ofChars s.toList := by
  rw [← ofString_ofList, String.ofList_toList]

/-- Texts with the same UTF-8 form are equal. -/
theorem ofString_inj {s t : String} : ofString s = ofString t ↔ s = t := by
  constructor
  · intro h
    have hs : toString? (ofString s) = toString? (ofString t) := by rw [h]
    simpa using hs
  · rintro rfl
    rfl

/-- What reads as a text is the UTF-8 form of this text. -/
theorem toString?_eq_some_iff {b : Bytes} {s : String} : toString? b = some s ↔ b = ofString s := by
  constructor
  · intro h
    simp only [toString?, String.fromUTF8?] at h
    split at h
    · obtain rfl := Option.some.inj h
      rfl
    · cases h
  · rintro rfl
    exact toString?_ofString s

/-- Bytes read as no text exactly if they are the UTF-8 form of none. -/
theorem toString?_eq_none_iff {b : Bytes} : toString? b = none ↔ ∀ s, b ≠ ofString s := by
  rw [Option.eq_none_iff_forall_ne_some]
  exact forall_congr' fun s => not_congr toString?_eq_some_iff

/-! ## Bytes of one character -/

theorem utf8EncodeChar_ascii {c : Char} (h : c.toNat < 0x80) :
    String.utf8EncodeChar c = [UInt8.ofNat c.toNat] := by
  have hc : c.val.toNat ≤ 0x7f := Nat.le_of_lt_succ h
  simp only [String.utf8EncodeChar, if_pos hc]
  rfl

/-- An ASCII text has one byte for every character. -/
theorem length_ofChars_ascii {cs : List Char} (h : ∀ c ∈ cs, c.toNat < 0x80) :
    (ofChars cs).length = cs.length := by
  induction cs with
  | nil => rfl
  | cons c cs ih =>
    obtain ⟨hc, hcs⟩ := List.forall_mem_cons.mp h
    rw [ofChars_cons, utf8EncodeChar_ascii hc, List.length_append, ih hcs, List.length_singleton,
      List.length_cons, Nat.add_comm]

/-- No text has more than four bytes for a character. -/
theorem length_ofChars_le (cs : List Char) : (ofChars cs).length ≤ 4 * cs.length := by
  induction cs with
  | nil => exact Nat.le_refl 0
  | cons c cs ih =>
    have hc : (String.utf8EncodeChar c).length ≤ 4 := by
      rw [String.length_utf8EncodeChar]
      exact c.utf8Size_le_four
    rw [ofChars_cons, List.length_append, List.length_cons]
    omega

/-- Every byte of a character beyond ASCII has its highest bit set. -/
theorem le_of_mem_utf8EncodeChar {c : Char} (h : 0x80 ≤ c.toNat) {b : UInt8}
    (hb : b ∈ String.utf8EncodeChar c) : 0x80 ≤ b.toNat := by
  -- Characters of two, of three and of four bytes.
  have hc : ¬ c.val.toNat ≤ 0x7f := Nat.not_le_of_lt h
  simp only [String.utf8EncodeChar, if_neg hc] at hb
  split at hb
  · simp only [List.mem_cons, List.not_mem_nil, or_false] at hb
    rcases hb with rfl | rfl <;> simp only [UInt8.toNat_ofNat'] <;> omega
  · split at hb
    · simp only [List.mem_cons, List.not_mem_nil, or_false] at hb
      rcases hb with rfl | rfl | rfl <;> simp only [UInt8.toNat_ofNat'] <;> omega
    · simp only [List.mem_cons, List.not_mem_nil, or_false] at hb
      rcases hb with rfl | rfl | rfl | rfl <;> simp only [UInt8.toNat_ofNat'] <;> omega

end Bytes

end ChatKeys
