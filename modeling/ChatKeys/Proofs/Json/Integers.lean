/-
  ChatKeys.Proofs.Json.Integers

  An integer that was written is read back, provided that what stands behind it
  does not go on with the number (`Reader.number_natural`, `Reader.number_negative`).

  `IsDecimal` says what the digits of a written number are; the readers of its
  parts take exactly those and stop at a delimiter.
-/
import ChatKeys.Json.Number
import ChatKeys.Json.Value
import ChatKeys.Proofs.Json.Tokens
import ChatKeys.Proofs.Text.Utf8

namespace ChatKeys.Json

/-! ## Digits -/

/-- The byte of a decimal digit. -/
def digitByte (d : Nat) : UInt8 := UInt8.ofNat (48 + d)

theorem isDigit_digitByte : ∀ d < 10, isDigit (digitByte d) = true := by
  decide

theorem not_isSpace_digitByte : ∀ d < 10, isSpace (digitByte d) = false := by
  decide

theorem toNat_digitByte : ∀ d < 10, (digitByte d).toNat - 48 = d := by
  decide

theorem contains_minus_digitByte : ∀ d < 10, [0x2d].contains (digitByte d) = false := by
  decide

theorem utf8EncodeChar_digitChar :
    ∀ d < 10, String.utf8EncodeChar (Nat.digitChar d) = [digitByte d] := by
  decide

/-- The digits of a number as it is written: highest first, and no zero in front
    of another digit. -/
structure IsDecimal (n : Nat) (ds : List Nat) : Prop where
  lt : ∀ d ∈ ds, d < 10
  ne_nil : ds ≠ []
  decimal_eq : decimal ds = n
  lead : ds.head? = some 0 → ds.length = 1

theorem exists_isDecimal (n : Nat) :
    ∃ ds, IsDecimal n ds ∧ Bytes.ofChars (Nat.toDigits 10 n) = ds.map digitByte := by
  -- A number has one digit, or the digits of its tenth and one more.
  induction n using Nat.strongRecOn with
  | _ n ih =>
    by_cases hn : n < 10
    · refine ⟨[n], ⟨by simpa using hn, by simp, by simp [decimal], fun _ => rfl⟩, ?_⟩
      rw [Nat.toDigits_of_lt_base hn]
      simp [utf8EncodeChar_digitChar n hn]
    · obtain ⟨ds, hds, htext⟩ := ih (n / 10) (by omega)
      have hmod : n % 10 < 10 := Nat.mod_lt _ (by decide)
      refine ⟨ds ++ [n % 10], ⟨?_, by simp, ?_, ?_⟩, ?_⟩
      · intro d hd
        rcases List.mem_append.mp hd with hd | hd
        · exact hds.lt d hd
        · rw [List.mem_singleton.mp hd]
          exact hmod
      · have happend : decimal (ds ++ [n % 10]) = decimal ds * 10 + n % 10 := by simp [decimal]
        rw [happend, hds.decimal_eq]
        omega
      · intro hhead
        -- A leading zero would be all of the front part, which stands for at least one.
        have hfront : ds.head? = some 0 := by
          obtain ⟨d, tail, rfl⟩ := List.exists_cons_of_ne_nil hds.ne_nil
          exact hhead
        obtain ⟨d, rfl⟩ := List.length_eq_one_iff.mp (hds.lead hfront)
        obtain rfl : d = 0 := Option.some.inj hfront
        have hzero := hds.decimal_eq
        simp only [decimal, List.foldl_cons, List.foldl_nil] at hzero
        omega
      · rw [Nat.toDigits_of_base_le (by decide) (by omega), Bytes.ofChars_append, htext]
        simp [utf8EncodeChar_digitChar _ hmod]

/-- A written integer begins with its sign or its first digit. -/
theorem ofChars_integerChars_eq_cons (n : Int) :
    ∃ b tail, Bytes.ofChars (integerChars n) = b :: tail ∧ isSpace b = false
      ∧ (b = 0x2d || isDigit b) = true := by
  by_cases hn : n < 0
  · exact ⟨_, _, by rw [integerChars, if_pos hn, Bytes.ofChars_cons]; rfl, rfl, rfl⟩
  · obtain ⟨ds, hds, htext⟩ := exists_isDecimal n.natAbs
    obtain ⟨d, tail, rfl⟩ := List.exists_cons_of_ne_nil hds.ne_nil
    have hd : d < 10 := hds.lt d List.mem_cons_self
    refine ⟨digitByte d, tail.map digitByte, ?_, not_isSpace_digitByte d hd, ?_⟩
    · rw [integerChars, if_neg hn, htext, List.map_cons]
    · rw [isDigit_digitByte d hd, Bool.or_true]

/-! ## Reading -/

namespace Reader

theorem not_isDigit_of_isDelimited {b : UInt8} {rest : Bytes} (h : IsDelimited (b :: rest)) :
    isDigit b = false := by
  rcases h with rfl | rfl <;> rfl

theorem digits_append {ds : List Nat} (hds : ∀ d ∈ ds, d < 10) {rest : Bytes}
    (hrest : IsDelimited rest) : digits (ds.map digitByte ++ rest) = .ok (ds, rest) := by
  have hall : ∀ b ∈ ds.map digitByte, isDigit b = true := by
    intro b hb
    obtain ⟨d, hd, rfl⟩ := List.mem_map.mp hb
    exact isDigit_digitByte d (hds d hd)
  -- Neither a comma nor a brace is a digit.
  have hstop : rest.takeWhile isDigit = [] ∧ rest.dropWhile isDigit = rest := by
    cases rest with
    | nil => exact ⟨rfl, rfl⟩
    | cons b rest =>
      have hb := not_isDigit_of_isDelimited hrest
      exact ⟨List.takeWhile_cons_of_neg (by simp [hb]), List.dropWhile_cons_of_neg (by simp [hb])⟩
  have hback : (ds.map digitByte).map (fun b => b.toNat - 48) = ds := by
    have hid : ∀ d ∈ ds, ((fun b : UInt8 => b.toNat - 48) ∘ digitByte) d = id d :=
      fun d hd => toNat_digitByte d (hds d hd)
    rw [List.map_map, List.map_congr_left hid, List.map_id]
  rw [digits, List.takeWhile_append_of_pos hall, List.dropWhile_append_of_pos hall, hstop.1,
    hstop.2, List.append_nil, hback]

theorem take?_of_isDelimited {among rest : Bytes} (h : IsDelimited rest)
    (hamong : among.contains 0x2c = false ∧ among.contains 0x7d = false) :
    take? among rest = .ok (false, rest) := by
  cases rest with
  | nil => rfl
  | cons b rest =>
    rcases h with rfl | rfl
    · simp only [take?, hamong.1]; rfl
    · simp only [take?, hamong.2]; rfl

theorem wholeDigits_append {n : Nat} {ds : List Nat} (h : IsDecimal n ds) {rest : Bytes}
    (hrest : IsDelimited rest) : wholeDigits (ds.map digitByte ++ rest) = .ok (ds, rest) := by
  have hsome : someDigits (ds.map digitByte ++ rest) = .ok (ds, rest) := by
    rw [someDigits, bind_of_ok (digits_append h.lt hrest), if_neg (by simp [h.ne_nil])]
    rfl
  -- A leading zero is refused only in front of other digits.
  have hlead : ¬ (ds.head? = some 0 ∧ 1 < ds.length) := by
    rintro ⟨hhead, hlen⟩
    rw [h.lead hhead] at hlen
    exact absurd hlen (by decide)
  rw [wholeDigits, bind_of_ok hsome, if_neg hlead]
  rfl

/-- A number without fraction and exponent is what its sign and digits say. -/
theorem number_of_wholeDigits {minus : Bool} {s behind rest : Bytes} {ds : List Nat} {k : Number}
    (hsign : take? [0x2d] s = .ok (minus, behind)) (hds : wholeDigits behind = .ok (ds, rest))
    (hrest : IsDelimited rest) (hk : Number.ofParts? minus ds none none = some k) :
    number s = .ok (k, rest) := by
  -- What follows begins neither a fraction nor an exponent.
  have hfraction : fraction? rest = .ok (none, rest) := by
    rw [fraction?, bind_of_ok (take?_of_isDelimited hrest (by decide))]
    rfl
  have hexponent : exponent? rest = .ok (none, rest) := by
    rw [exponent?, bind_of_ok (take?_of_isDelimited hrest (by decide))]
    rfl
  rw [number, bind_of_ok hsign, bind_of_ok hds, bind_of_ok hfraction, bind_of_ok hexponent, hk]
  rfl

theorem number_natural {n : Nat} (hn : n < 2 ^ 64) {rest : Bytes} (hrest : IsDelimited rest) :
    number (Bytes.ofChars (integerChars n) ++ rest) = .ok (.natural (UInt64.ofNat n), rest) := by
  obtain ⟨ds, hds, htext⟩ := exists_isDecimal n
  have hchars : Bytes.ofChars (integerChars n) = ds.map digitByte := by
    rw [integerChars, if_neg (by omega)]
    exact htext
  have hsign : take? [0x2d] (ds.map digitByte ++ rest) = .ok (false, ds.map digitByte ++ rest) := by
    obtain ⟨d, tail, rfl⟩ := List.exists_cons_of_ne_nil hds.ne_nil
    have hminus : [0x2d].contains (digitByte d) = false :=
      contains_minus_digitByte d (hds.lt d List.mem_cons_self)
    rw [List.map_cons, List.cons_append, take?, hminus]
    rfl
  rw [hchars]
  refine number_of_wholeDigits hsign (wholeDigits_append hds hrest) hrest ?_
  rw [Number.ofParts?, hds.decimal_eq]
  simp only [hn, if_true]
  rfl

theorem number_negative {n : Int} (hneg : n < 0) (hn : -2 ^ 63 ≤ n) {rest : Bytes}
    (hrest : IsDelimited rest) :
    number (Bytes.ofChars (integerChars n) ++ rest) = .ok (.negative n, rest) := by
  obtain ⟨ds, hds, htext⟩ := exists_isDecimal n.natAbs
  have hchars : Bytes.ofChars (integerChars n) = 0x2d :: ds.map digitByte := by
    rw [integerChars, if_pos hneg, Bytes.ofChars_cons, htext]
    rfl
  have hsign : take? [0x2d] (0x2d :: ds.map digitByte ++ rest)
      = .ok (true, ds.map digitByte ++ rest) := rfl
  rw [hchars]
  refine number_of_wholeDigits hsign (wholeDigits_append hds hrest) hrest ?_
  have habs : decimal ds < 2 ^ 64 ∧ 0 < decimal ds ∧ decimal ds ≤ 2 ^ 63 := by
    rw [hds.decimal_eq]
    omega
  have hval : (-(decimal ds) : Int) = n := by
    rw [hds.decimal_eq]
    omega
  rw [Number.ofParts?]
  simp only [habs, hval]
  rfl

end Reader

end ChatKeys.Json
