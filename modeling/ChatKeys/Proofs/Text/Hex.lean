/-
  ChatKeys.Proofs.Text.Hex

  Which texts decode as pairs of hexadecimal digits: `decode?_eq_some_iff` says that
  they are, in lower case, what encoding gives, so a byte string has one spelling for
  every choice of the case of its letters.

  `decodeChars?_iff_nibbles` says the same of the digits themselves: `alphabet` lists them,
  `number` is what each stands for, and `nibbles` are the halves of a byte string's bytes.
-/
import ChatKeys.Text.Hex

namespace ChatKeys.Hex

/-- Lower case, by the number of the character. -/
theorem toNat_toLower (c : Char) :
    c.toLower.toNat = if 65 ≤ c.toNat ∧ c.toNat ≤ 90 then c.toNat + 32 else c.toNat := by
  have hle : (c.val ≥ 'A'.val ∧ c.val ≤ 'Z'.val) ↔ (65 ≤ c.toNat ∧ c.toNat ≤ 90) := Iff.rfl
  delta Char.toLower
  split
  · next h =>
    rw [if_pos (hle.mp h)]
    show (c.val + 32).toNat = c.toNat + 32
    have hlt : c.toNat ≤ 90 := (hle.mp h).2
    rw [UInt32.toNat_add, Nat.mod_eq_of_lt]
    · rfl
    · show c.toNat + 32 < 2 ^ 32
      omega
  · next h => rw [if_neg (mt hle.mpr h)]

theorem toNat_digit : ∀ n < 16, (digit n).toNat = if n < 10 then 48 + n else 87 + n := by
  decide

/-- A character has a number exactly if it is, in lower case, the digit of that number. -/
theorem value?_eq_some_iff {c : Char} {n : Nat} :
    value? c = some n ↔ n < 16 ∧ c.toLower = digit n := by
  have hchar : ∀ d : Char, c.toLower = d ↔ c.toLower.toNat = d.toNat := fun d => Char.toNat_inj.symm
  have hlower := toNat_toLower c
  constructor
  · intro h
    have hn : n < 16 := by grind [value?]
    refine ⟨hn, ?_⟩
    rw [hchar, toNat_digit n hn]
    grind [value?]
  · rintro ⟨hn, h⟩
    rw [hchar, toNat_digit n hn, hlower] at h
    grind [value?]

/-- A text decodes exactly if it is, in lower case, what encoding gives. -/
theorem decodeChars?_eq_some_iff {cs : List Char} {b : Bytes} :
    decodeChars? cs = some b ↔ cs.map Char.toLower = encodeChars b := by
  -- By the pairs of the text; a single digit left over is no text of any bytes.
  fun_induction decodeChars? cs generalizing b with
  | case1 => cases b <;> simp [encodeChars]
  | case2 c => cases b <;> simp [encodeChars]
  | case3 c d rest ih =>
    simp only [Option.bind_eq_bind, Option.bind_eq_some_iff, Option.pure_def, Option.some.injEq,
      value?_eq_some_iff, List.map_cons]
    constructor
    · rintro ⟨high, ⟨hhigh, hc⟩, low, ⟨hlow, hd⟩, tail, htail, rfl⟩
      have hx : (UInt8.ofNat (16 * high + low)).toNat = 16 * high + low := by
        rw [UInt8.toNat_ofNat']
        omega
      rw [hc, hd, ih.mp htail, encodeChars, encodeChars, List.flatMap_cons, hx,
        show (16 * high + low) / 16 = high by omega, show (16 * high + low) % 16 = low by omega]
      rfl
    · intro h
      cases b with
      | nil => cases h
      | cons x tail =>
        have hx := x.toNat_lt
        obtain ⟨hc, hd, htail⟩ :
            c.toLower = digit (x.toNat / 16) ∧ d.toLower = digit (x.toNat % 16) ∧
              rest.map Char.toLower = encodeChars tail := by
          simpa [encodeChars] using h
        refine ⟨_, ⟨by omega, hc⟩, _, ⟨Nat.mod_lt _ (by decide), hd⟩, tail, ih.mpr htail, ?_⟩
        rw [show 16 * (x.toNat / 16) + x.toNat % 16 = x.toNat by omega, UInt8.ofNat_toNat]

theorem decode?_eq_some_iff {s : String} {b : Bytes} :
    decode? s = some b ↔ s.toLower = encode b := by
  have hlower : s.toLower.toList = s.toList.map Char.toLower := String.toList_map ..
  rw [decode?, decodeChars?_eq_some_iff, String.ext_iff, encode, hlower, String.toList_ofList]

/-- Encoding writes small letters. -/
theorem toLower_encode (b : Bytes) : (encode b).toLower = encode b :=
  decode?_eq_some_iff.mp (decode?_encode b)

/-! ## Digits and what they stand for -/

/-- The digits, each at the place of its number. -/
def smallDigits : List Char := "0123456789abcdef".toList

/-- The digits of either case. -/
def alphabet : List Char := smallDigits ++ "ABCDEF".toList

/-- The number of a digit of either case. -/
def number (c : Char) : Nat := smallDigits.idxOf c.toLower

/-- The halves of the bytes, the high one first. -/
def nibbles (b : Bytes) : List Nat :=
  b.flatMap fun x => [x.toNat / 16, x.toNat % 16]

/-- The bytes of some halves. -/
def ofNibbles : List Nat → Bytes
  | high :: low :: rest => UInt8.ofNat (16 * high + low) :: ofNibbles rest
  | _ => []

theorem nibbles_cons (x : UInt8) (b : Bytes) :
    nibbles (x :: b) = x.toNat / 16 :: x.toNat % 16 :: nibbles b := rfl

theorem length_nibbles (b : Bytes) : (nibbles b).length = 2 * b.length := by
  induction b with
  | nil => rfl
  | cons x b ih =>
    rw [nibbles_cons, List.length_cons, List.length_cons, List.length_cons, ih]
    omega

theorem lt_of_mem_nibbles {b : Bytes} {n : Nat} (h : n ∈ nibbles b) : n < 16 := by
  obtain ⟨x, -, hx⟩ := List.mem_flatMap.mp h
  have hlt := x.toNat_lt
  simp only [List.mem_cons, List.not_mem_nil, or_false] at hx
  omega

/-- Numbers that can be halves, in whole pairs, are the halves of some bytes. -/
theorem nibbles_ofNibbles {ns : List Nat} (heven : ns.length % 2 = 0) (hlt : ∀ n ∈ ns, n < 16) :
    nibbles (ofNibbles ns) = ns := by
  fun_induction ofNibbles ns with
  | case1 high low rest ih =>
    obtain ⟨hhigh, hlow, hrest⟩ : high < 16 ∧ low < 16 ∧ ∀ n ∈ rest, n < 16 := by
      simpa only [List.forall_mem_cons] using hlt
    have hbyte : (UInt8.ofNat (16 * high + low)).toNat = 16 * high + low := by
      rw [UInt8.toNat_ofNat']
      omega
    have hlength : rest.length % 2 = 0 := by
      simp only [List.length_cons] at heven
      omega
    have hquotient : (16 * high + low) / 16 = high := by omega
    have hremainder : (16 * high + low) % 16 = low := by omega
    rw [nibbles_cons, hbyte, hquotient, hremainder, ih hlength hrest]
  | case2 ns hshort =>
    match ns, hshort with
    | [], _ => rfl
    | [_], _ => simp at heven
    | high :: low :: rest, hshort => exact absurd rfl (hshort high low rest)

/-- Bytes are written with the digits of their halves. -/
theorem encodeChars_eq_map (b : Bytes) : encodeChars b = (nibbles b).map digit := by
  rw [encodeChars, nibbles, List.map_flatMap]
  rfl

/-- A character of the alphabet is, in lower case, the digit of its number. -/
theorem toLower_of_mem_alphabet :
    ∀ c ∈ alphabet, c.toLower = digit (number c) ∧ number c < 16 := by
  -- Checked along the list: all characters would be too many.
  have hall : alphabet.all fun c => c.toLower = digit (number c) ∧ number c < 16 := by decide
  exact fun c hc => of_decide_eq_true (List.all_eq_true.mp hall c hc)

/-- What is a digit in lower case is in the alphabet, with its number. -/
theorem mem_alphabet_of_toLower {c : Char} {n : Nat} (hn : n < 16) (h : c.toLower = digit n) :
    c ∈ alphabet ∧ number c = n := by
  constructor
  · -- There are few characters whose lower case is that small.
    have hsmall : ∀ k < 103, (Char.ofNat k).toLower ∈ smallDigits → Char.ofNat k ∈ alphabet := by
      decide
    have hdigit : ∀ m < 16, digit m ∈ smallDigits := by decide
    have hlt : c.toNat < 103 := by
      have hlower := toNat_toLower c
      rw [h, toNat_digit n hn] at hlower
      split at hlower <;> split at hlower <;> omega
    rw [← Char.ofNat_toNat c] at h ⊢
    exact hsmall _ hlt (h ▸ hdigit n hn)
  · have hplace : ∀ m < 16, smallDigits.idxOf (digit m) = m := by decide
    rw [number, h, hplace n hn]

/-- A text decodes exactly if it is whole pairs of digits, to the bytes whose halves are the
    digits' numbers. -/
theorem decodeChars?_iff_nibbles {cs : List Char} {b : Bytes} :
    decodeChars? cs = some b ↔
      cs.length % 2 = 0 ∧ (∀ c ∈ cs, c ∈ alphabet) ∧ nibbles b = cs.map number := by
  rw [decodeChars?_eq_some_iff, encodeChars_eq_map]
  constructor
  · intro h
    have hdigit : ∀ c ∈ cs, ∃ n < 16, c.toLower = digit n := by
      intro c hc
      obtain ⟨n, hn, heq⟩ := List.mem_map.mp (h ▸ List.mem_map_of_mem hc : c.toLower ∈ _)
      exact ⟨n, lt_of_mem_nibbles hn, heq.symm⟩
    have hlength : cs.length = 2 * b.length := by
      have hmapped := congrArg List.length h
      rwa [List.length_map, List.length_map, length_nibbles] at hmapped
    refine ⟨by omega, fun c hc => ?_, ?_⟩
    · obtain ⟨n, hn, heq⟩ := hdigit c hc
      exact (mem_alphabet_of_toLower hn heq).1
    · -- Numbers are read off the lower case, and those of digits are the halves.
      have hplace : ∀ n < 16, smallDigits.idxOf (digit n) = n := by decide
      have hsame : (nibbles b).map (smallDigits.idxOf ∘ digit) = (nibbles b).map id :=
        List.map_congr_left fun n hn => hplace n (lt_of_mem_nibbles hn)
      calc nibbles b = (nibbles b).map (smallDigits.idxOf ∘ digit) := by rw [hsame, List.map_id]
        _ = (cs.map Char.toLower).map smallDigits.idxOf := by rw [h, List.map_map]
        _ = cs.map number := List.map_map
  · rintro ⟨-, hdigits, hnumbers⟩
    rw [hnumbers, List.map_map]
    exact List.map_congr_left fun c hc => (toLower_of_mem_alphabet c (hdigits c hc)).1

/-- Whole pairs of digits decode. -/
theorem exists_decodeChars? {cs : List Char} (heven : cs.length % 2 = 0)
    (hdigits : ∀ c ∈ cs, c ∈ alphabet) : ∃ b, decodeChars? cs = some b := by
  refine ⟨ofNibbles (cs.map number), decodeChars?_iff_nibbles.mpr ⟨heven, hdigits, ?_⟩⟩
  refine nibbles_ofNibbles (by rwa [List.length_map]) fun n hn => ?_
  obtain ⟨c, hc, rfl⟩ := List.mem_map.mp hn
  exact (toLower_of_mem_alphabet c (hdigits c hc)).2

end ChatKeys.Hex
