/-
  ChatKeys.Proofs.Json.Strings

  A string that was written is read back, whatever its characters are and
  whatever stands behind it (`string_stringChars`).

  The escapes are taken one character at a time: `stringBody_escaped` says that
  reading what one character is written as gives the character's UTF-8 form and
  goes on behind it.  Its cases are those of `escaped`; the last one, a character
  that stands for itself, may be several bytes long, and none of them is a quote,
  a backslash or a control character (`stringBody_plain`).
-/
import ChatKeys.Json.Reader
import ChatKeys.Json.Value
import ChatKeys.Proofs.Text.Utf8

namespace ChatKeys.Json

/-! ## Results in front of a result -/

@[simp] theorem prependTo_nil (r : Except Error (Bytes × Bytes)) : prependTo [] r = r := by
  cases r <;> rfl

@[simp] theorem prependTo_prependTo (a b : Bytes) (r : Except Error (Bytes × Bytes)) :
    prependTo a (prependTo b r) = prependTo (a ++ b) r := by
  cases r with
  | error e => rfl
  | ok p => simp [prependTo]

/-! ## Bytes that stand for themselves -/

/-- A byte that stands for itself inside a string. -/
def isPlain (b : UInt8) : Prop := 0x20 ≤ b.toNat ∧ b ≠ 0x22 ∧ b ≠ 0x5c

theorem stringBody_cons_plain {b : UInt8} (h : isPlain b) (rest : Bytes) :
    stringBody (b :: rest) = prependTo [b] (stringBody rest) := by
  obtain ⟨hle, hq, hs⟩ := h
  have hlt : ¬ b < 0x20 := by
    rw [UInt8.lt_iff_toNat_lt]
    exact Nat.not_lt_of_le hle
  -- Neither the end of the string nor an escape, so the last case is left.
  rw [stringBody.eq_def]
  split
  · next he => cases he
  · next he => exact absurd (List.cons.inj he).1 hq
  · next he => exact absurd (List.cons.inj he).1 hs
  · next he => exact absurd (List.cons.inj he).1 hs
  · next he =>
    obtain ⟨rfl, rfl⟩ := List.cons.inj he
    rw [if_neg (by simp [hlt, hs])]

theorem stringBody_plain {bs : Bytes} (h : ∀ b ∈ bs, isPlain b) (rest : Bytes) :
    stringBody (bs ++ rest) = prependTo bs (stringBody rest) := by
  induction bs with
  | nil => simp
  | cons b bs ih =>
    have hb : isPlain b := h b List.mem_cons_self
    rw [List.cons_append, stringBody_cons_plain hb, ih fun x hx => h x (List.mem_cons_of_mem _ hx),
      prependTo_prependTo]
    rfl

/-! ## Escapes -/

theorem stringBody_letter {e b : UInt8} (h : simpleEscape? e = some b) (rest : Bytes) :
    stringBody (0x5c :: e :: rest) = prependTo [b] (stringBody rest) := by
  have hu : e ≠ 0x75 := by
    rintro rfl
    cases h
  rw [stringBody.eq_def]
  split
  · next he => cases he
  · next he => cases he
  · next he =>
    -- An escape by number begins with a `u`.
    simp only [List.cons.injEq, true_and] at he
    exact absurd he.1 hu
  · next he =>
    simp only [List.cons.injEq, true_and] at he
    obtain ⟨rfl, rfl⟩ := he
    simp only [h]
  · next hne he =>
    simp only [List.cons.injEq] at he
    obtain ⟨rfl, rfl⟩ := he
    exact absurd rfl (hne _ _ rfl)

theorem stringBody_number {a b c d : UInt8} {n : Nat} (h : hexNumber? a b c d = some n)
    (hn : n < 0xd800) (rest : Bytes) :
    stringBody (0x5c :: 0x75 :: a :: b :: c :: d :: rest)
      = prependTo (characterBytes n) (stringBody rest) := by
  rw [stringBody]
  simp only [h]
  rw [if_neg (by omega), if_pos (by omega)]

/-- A control character by its two last hexadecimal digits. -/
theorem hexNumber?_control : ∀ n < 0x20,
    hexNumber? 0x30 0x30 (UInt8.ofNat (Nat.digitChar (n / 16)).toNat)
      (UInt8.ofNat (Nat.digitChar (n % 16)).toNat) = some n := by
  decide

theorem digitChar_ascii : ∀ n < 16, (Nat.digitChar n).toNat < 0x80 := by
  decide

/-- Reading what a character is written as gives the character. -/
theorem stringBody_escaped (c : Char) (rest : Bytes) :
    stringBody (Bytes.ofChars (escaped c) ++ rest)
      = prependTo (String.utf8EncodeChar c) (stringBody rest) := by
  -- Seven characters have an escape by letter, other control characters one by number.
  unfold escaped
  split
  · next h => subst h; exact stringBody_letter rfl rest
  split
  · next h => subst h; exact stringBody_letter rfl rest
  split
  · next h => subst h; exact stringBody_letter rfl rest
  split
  · next h => subst h; exact stringBody_letter rfl rest
  split
  · next h => subst h; exact stringBody_letter rfl rest
  split
  · next h => subst h; exact stringBody_letter rfl rest
  split
  · next h => subst h; exact stringBody_letter rfl rest
  split
  · next h =>
    have hhigh := Bytes.utf8EncodeChar_ascii (digitChar_ascii (c.toNat / 16) (by omega))
    have hlow := Bytes.utf8EncodeChar_ascii (digitChar_ascii (c.toNat % 16) (by omega))
    simp only [Bytes.ofChars_cons, Bytes.ofChars_nil, hhigh, hlow]
    have hbody := stringBody_number (hexNumber?_control c.toNat h) (by omega) rest
    rw [characterBytes, Char.ofNat_toNat] at hbody
    exact hbody
  · next hq hs _ _ _ _ _ hc =>
    -- Beyond ASCII every byte has its highest bit set, so none is a quote or a backslash.
    have hplain : ∀ b ∈ String.utf8EncodeChar c, isPlain b := by
      intro b hb
      by_cases hascii : c.toNat < 0x80
      · rw [Bytes.utf8EncodeChar_ascii hascii, List.mem_singleton] at hb
        have hb' : b.toNat = c.toNat := by rw [hb, UInt8.toNat_ofNat']; omega
        refine ⟨by omega, ?_, ?_⟩
        · rintro rfl
          exact hq (Char.toNat_inj.mp hb'.symm)
        · rintro rfl
          exact hs (Char.toNat_inj.mp hb'.symm)
      · have hle := Bytes.le_of_mem_utf8EncodeChar (Nat.le_of_not_lt hascii) hb
        refine ⟨by omega, ?_, ?_⟩
        · rintro rfl
          exact absurd hle (by decide)
        · rintro rfl
          exact absurd hle (by decide)
    rw [Bytes.ofChars_cons, Bytes.ofChars_nil, List.append_nil, stringBody_plain hplain]

/-! ## Whole strings -/

theorem stringBody_flatMap_escaped (cs : List Char) (rest : Bytes) :
    stringBody (Bytes.ofChars (cs.flatMap escaped) ++ 0x22 :: rest)
      = .ok (Bytes.ofChars cs, rest) := by
  induction cs with
  | nil =>
    -- The quote behind the last character ends the string.
    rfl
  | cons c cs ih =>
    rw [List.flatMap_cons, Bytes.ofChars_append, List.append_assoc, stringBody_escaped, ih,
      Bytes.ofChars_cons]
    rfl

/-- A string that was written is read back, with anything behind it. -/
theorem string_stringChars (s : String) (rest : Bytes) :
    Reader.string (Bytes.ofChars (stringChars s) ++ rest) = .ok (s, rest) := by
  have htext : Bytes.ofChars (stringChars s) ++ rest
      = 0x22 :: (Bytes.ofChars (s.toList.flatMap escaped) ++ 0x22 :: rest) := by
    rw [stringChars, List.cons_append, Bytes.ofChars_cons, Bytes.ofChars_append]
    simp only [List.append_assoc]
    rfl
  rw [htext, Reader.string, stringBody_flatMap_escaped, ← Bytes.ofString_eq_ofChars]
  simp only [Bytes.toString?_ofString]

/-- A written string begins with its quote, and is read back from there. -/
theorem ofChars_stringChars_eq_cons (s : String) :
    ∃ tail, Bytes.ofChars (stringChars s) = 0x22 :: tail ∧
      ∀ rest, Reader.string (0x22 :: (tail ++ rest)) = .ok (s, rest) := by
  obtain ⟨tail, htail⟩ : ∃ tail, Bytes.ofChars (stringChars s) = 0x22 :: tail :=
    ⟨_, by rw [stringChars, List.cons_append, Bytes.ofChars_cons]; rfl⟩
  refine ⟨tail, htail, fun rest => ?_⟩
  rw [← List.cons_append, ← htail, string_stringChars]

/-! ## Lengths -/

theorem length_escaped_le (c : Char) : (escaped c).length ≤ 6 := by
  unfold escaped
  repeat' split
  all_goals simp

/-- A written string has at most six characters for each of its own, and its quotes. -/
theorem length_stringChars_le (s : String) :
    (stringChars s).length ≤ 6 * s.toList.length + 2 := by
  have hbody : ∀ cs : List Char, (cs.flatMap escaped).length ≤ 6 * cs.length := by
    intro cs
    induction cs with
    | nil => exact Nat.le_refl 0
    | cons c cs ih =>
      have hc := length_escaped_le c
      rw [List.flatMap_cons, List.length_append, List.length_cons]
      omega
  have hs := hbody s.toList
  simp only [stringChars, List.cons_append, List.length_cons, List.length_append, List.length_nil]
  omega

end ChatKeys.Json
