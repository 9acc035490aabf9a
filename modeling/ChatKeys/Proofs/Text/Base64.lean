/-
  ChatKeys.Proofs.Text.Base64

  Base64 text and byte strings determine each other: `decode?` accepts a text
  exactly if `encode` writes it (`decode?_eq_some_iff`).

  Both directions go group by group.  `decodeGroup?_eq_some_iff` says what a full
  group of four characters stands for, `decodePadded?_one_iff` and
  `decodePadded?_two_iff` say it of a last one; the induction over the text only
  puts groups together.
-/
import ChatKeys.Proofs.Results
import ChatKeys.Text.Base64

namespace ChatKeys.Base64

/-! ## Digits -/

/-- A character has a number only if it is the digit of that number. -/
theorem digit_of_value? {c : Char} {n : Nat} (h : value? c = some n) : digit n = c ∧ n < 64 := by
  have hc : Char.ofNat c.toNat = c := Char.ofNat_toNat c
  -- Capital letters, small letters, decimal digits, and the two signs.
  simp only [value?] at h
  split at h
  · next hr =>
    cases h
    refine ⟨?_, by omega⟩
    rw [digit, if_pos (by omega), show 65 + (c.toNat - 65) = c.toNat by omega, hc]
  · split at h
    · next hr =>
      cases h
      refine ⟨?_, by omega⟩
      rw [digit, if_neg (by omega), if_pos (by omega),
        show 71 + (c.toNat - 71) = c.toNat by omega, hc]
    · split at h
      · next hr =>
        cases h
        refine ⟨?_, by omega⟩
        rw [digit, if_neg (by omega), if_neg (by omega), if_pos (by omega),
          show c.toNat + 4 - 4 = c.toNat by omega, hc]
      · split at h
        · next hr => cases h; subst hr; exact ⟨rfl, by decide⟩
        · split at h
          · next hr => cases h; subst hr; exact ⟨rfl, by decide⟩
          · cases h

theorem value?_eq_some_iff {c : Char} {n : Nat} : value? c = some n ↔ n < 64 ∧ c = digit n := by
  constructor
  · intro h
    obtain ⟨hd, hn⟩ := digit_of_value? h
    exact ⟨hn, hd.symm⟩
  · rintro ⟨hn, rfl⟩
    exact value?_digit n hn

/-- A character that has no number is no digit. -/
theorem digit_ne {n : Nat} {c : Char} (h : n < 64) (hc : value? c = none) : digit n ≠ c := by
  rintro rfl
  rw [value?_digit n h] at hc
  cases hc

/-! ## Groups -/

/-- The four digits of a number of 24 bits add up to it. -/
theorem sum_digits (n : Nat) :
    n / 262144 * 262144 + n / 4096 % 64 * 4096 + n / 64 % 64 * 64 + n % 64 = n := by
  omega

/-- A full group stands for exactly the three bytes that are written as it. -/
theorem decodeGroup?_eq_some_iff {p q r s : Char} {g : Bytes} :
    decodeGroup? p q r s = some g ↔ ∃ a b c, g = [a, b, c] ∧ [p, q, r, s] = encodeChars [a, b, c] := by
  simp only [decodeGroup?, Option.bind_eq_bind, Option.bind_eq_some_iff, Option.pure_def,
    Option.some.injEq, value?_eq_some_iff, encodeChars]
  constructor
  · rintro ⟨u, ⟨hu, rfl⟩, v, ⟨hv, rfl⟩, w, ⟨hw, rfl⟩, x, ⟨hx, rfl⟩, rfl⟩
    -- The three bytes put together again are the number that the digits make up.
    refine ⟨_, _, _, rfl, ?_⟩
    simp only [UInt8.toNat_ofNat']
    have hn : (u * 262144 + v * 4096 + w * 64 + x) / 65536 % 2 ^ 8 * 65536
        + (u * 262144 + v * 4096 + w * 64 + x) / 256 % 256 % 2 ^ 8 * 256
        + (u * 262144 + v * 4096 + w * 64 + x) % 256 % 2 ^ 8
        = u * 262144 + v * 4096 + w * 64 + x := by omega
    rw [hn, show (u * 262144 + v * 4096 + w * 64 + x) / 262144 = u by omega,
      show (u * 262144 + v * 4096 + w * 64 + x) / 4096 % 64 = v by omega,
      show (u * 262144 + v * 4096 + w * 64 + x) / 64 % 64 = w by omega,
      show (u * 262144 + v * 4096 + w * 64 + x) % 64 = x by omega]
  · rintro ⟨a, b, c, rfl, h⟩
    have ha := a.toNat_lt
    have hb := b.toNat_lt
    have hc := c.toNat_lt
    simp only [List.cons.injEq, and_true] at h
    obtain ⟨rfl, rfl, rfl, rfl⟩ := h
    refine ⟨_, ⟨by omega, rfl⟩, _, ⟨Nat.mod_lt _ (by decide), rfl⟩,
      _, ⟨Nat.mod_lt _ (by decide), rfl⟩, _, ⟨Nat.mod_lt _ (by decide), rfl⟩, ?_⟩
    · rw [sum_digits, show (a.toNat * 65536 + b.toNat * 256 + c.toNat) / 65536 = a.toNat by omega,
        show (a.toNat * 65536 + b.toNat * 256 + c.toNat) / 256 % 256 = b.toNat by omega,
        show (a.toNat * 65536 + b.toNat * 256 + c.toNat) % 256 = c.toNat by omega]
      simp only [UInt8.ofNat_toNat]

/-- A last group with two paddings stands for exactly the byte that is written as it. -/
theorem decodePadded?_one_iff {p q : Char} {g : Bytes} :
    decodePadded? p q '=' '=' = some g ↔ ∃ a, g = [a] ∧ [p, q, '=', '='] = encodeChars [a] := by
  simp only [decodePadded?, ↓guard_eq_ite, reduceIte, Option.pure_def, Option.bind_eq_bind,
    Option.bind_some, encodeChars, Option.bind_eq_some_iff, Option.ite_none_right_eq_some,
    value?_eq_some_iff, Option.some.injEq, List.cons.injEq, and_true]
  constructor
  · rintro ⟨u, ⟨hu, rfl⟩, v, ⟨hv, rfl⟩, -, hz, rfl⟩
    -- Decoding insists that the bits behind the byte are zero (`hz`), as encoding makes them.
    refine ⟨_, rfl, ?_⟩
    simp only [UInt8.toNat_ofNat']
    rw [show (u * 4 + v / 16) % 2 ^ 8 * 16 / 64 = u by omega,
      show (u * 4 + v / 16) % 2 ^ 8 * 16 % 64 = v by omega]
    exact ⟨rfl, rfl⟩
  · rintro ⟨a, rfl, rfl, rfl⟩
    have ha := a.toNat_lt
    refine ⟨_, ⟨by omega, rfl⟩, _, ⟨Nat.mod_lt _ (by decide), rfl⟩, (), by omega, ?_⟩
    rw [show a.toNat * 16 / 64 * 4 + a.toNat * 16 % 64 / 16 = a.toNat by omega,
      UInt8.ofNat_toNat]

/-- A last group with one padding stands for exactly the two bytes that are written as it. -/
theorem decodePadded?_two_iff {p q r : Char} {g : Bytes} (hr : r ≠ '=') :
    decodePadded? p q r '=' = some g ↔
      ∃ a b, g = [a, b] ∧ [p, q, r, '='] = encodeChars [a, b] := by
  simp only [decodePadded?, ↓guard_eq_ite, reduceIte, Option.pure_def, Option.bind_eq_bind,
    Option.bind_some, encodeChars, Option.bind_eq_some_iff, Option.ite_none_right_eq_some,
    value?_eq_some_iff, Option.some.injEq, List.cons.injEq, and_true, if_neg hr]
  constructor
  · rintro ⟨u, ⟨hu, rfl⟩, v, ⟨hv, rfl⟩, w, ⟨hw, rfl⟩, -, hz, rfl⟩
    refine ⟨_, _, rfl, ?_⟩
    simp only [UInt8.toNat_ofNat']
    have hn : (u * 1024 + v * 16 + w / 4) / 256 % 2 ^ 8 * 256
        + (u * 1024 + v * 16 + w / 4) % 256 % 2 ^ 8 = u * 1024 + v * 16 + w / 4 := by omega
    rw [hn, show (u * 1024 + v * 16 + w / 4) * 4 / 4096 = u by omega,
      show (u * 1024 + v * 16 + w / 4) * 4 / 64 % 64 = v by omega,
      show (u * 1024 + v * 16 + w / 4) * 4 % 64 = w by omega]
    exact ⟨rfl, rfl, rfl⟩
  · rintro ⟨a, b, rfl, rfl, rfl, rfl⟩
    have ha := a.toNat_lt
    have hb := b.toNat_lt
    refine ⟨_, ⟨by omega, rfl⟩, _, ⟨Nat.mod_lt _ (by decide), rfl⟩,
      _, ⟨Nat.mod_lt _ (by decide), rfl⟩, (), by omega, ?_⟩
    have hn : (a.toNat * 256 + b.toNat) * 4 / 4096 * 1024
        + (a.toNat * 256 + b.toNat) * 4 / 64 % 64 * 16
        + (a.toNat * 256 + b.toNat) * 4 % 64 / 4 = a.toNat * 256 + b.toNat := by omega
    rw [hn, show (a.toNat * 256 + b.toNat) / 256 = a.toNat by omega,
      show (a.toNat * 256 + b.toNat) % 256 = b.toNat by omega]
    simp only [UInt8.ofNat_toNat]

/-- No group of four digits has padding in it. -/
theorem decodeGroup?_padded (p q r : Char) : decodeGroup? p q r '=' = none := by
  have h : value? '=' = none := rfl
  simp only [decodeGroup?, h, Option.bind_eq_bind, Option.bind_none, Option.bind_fun_none]

/-! ## Texts -/

/-- A full group in front is decoded on its own, also when nothing is behind it. -/
theorem decodeChars?_group {p q r s : Char} {g : Bytes} (h : decodeGroup? p q r s = some g)
    (rest : List Char) :
    decodeChars? (p :: q :: r :: s :: rest) = (decodeChars? rest).map (g ++ ·) := by
  cases rest with
  | nil => simp [decodeChars?, h]
  | cons c cs =>
    rw [decodeChars?, h]
    · cases decodeChars? (c :: cs) with
      | none => rfl
      | some tail => rfl
    · simp

/-- Decoding undoes encoding. -/
theorem decodeChars?_encodeChars (b : Bytes) : decodeChars? (encodeChars b) = some b := by
  -- By the bytes that are left: none, one or two in a padded group, or three and more.
  fun_induction encodeChars b with
  | case1 => rfl
  | case2 a n =>
    rw [decodeChars?, decodeGroup?_padded]
    exact decodePadded?_one_iff.mpr ⟨a, rfl, rfl⟩
  | case3 a b n =>
    have hr : digit (n % 64) ≠ '=' := digit_ne (Nat.mod_lt _ (by decide)) rfl
    rw [decodeChars?, decodeGroup?_padded]
    exact (decodePadded?_two_iff hr).mpr ⟨a, b, rfl, rfl⟩
  | case4 a b c rest n ih =>
    rw [decodeChars?_group (decodeGroup?_eq_some_iff.mpr ⟨a, b, c, rfl, rfl⟩), ih]
    rfl

/-- What decodes is in the form that encoding gives. -/
theorem encodeChars_of_decodeChars? {cs : List Char} {b : Bytes} (h : decodeChars? cs = some b) :
    cs = encodeChars b := by
  -- By the groups of the text; only the last one (`case2`) may have padding.
  fun_induction decodeChars? cs generalizing b with
  | case1 => cases h; rfl
  | case2 p q r s =>
    cases hg : decodeGroup? p q r s with
    | some g =>
      rw [hg] at h
      obtain rfl : g = b := Option.some.inj h
      obtain ⟨x, y, z, rfl, hw⟩ := decodeGroup?_eq_some_iff.mp hg
      exact hw
    | none =>
      -- No full group: a last one, with one or two paddings.
      rw [hg] at h
      replace h : decodePadded? p q r s = some b := h
      by_cases hs : s = '='
      · subst hs
        by_cases hr : r = '='
        · subst hr
          obtain ⟨x, rfl, hw⟩ := decodePadded?_one_iff.mp h
          exact hw
        · obtain ⟨x, y, rfl, hw⟩ := (decodePadded?_two_iff hr).mp h
          exact hw
      · simp [decodePadded?, hs, ↓guard_eq_ite] at h
  | case3 p q r s rest hrest ih =>
    simp only [Option.bind_eq_bind, Option.bind_eq_some_iff, Option.pure_def] at h
    obtain ⟨g, hg, tail, ht, he⟩ := h
    obtain ⟨x, y, z, rfl, hw⟩ := decodeGroup?_eq_some_iff.mp hg
    obtain rfl : [x, y, z] ++ tail = b := Option.some.inj he
    simp only [encodeChars, List.cons.injEq, and_true] at hw
    obtain ⟨rfl, rfl, rfl, rfl⟩ := hw
    rw [ih ht]
    rfl
  | case4 => cases h

theorem decodeChars?_eq_some_iff {cs : List Char} {b : Bytes} :
    decodeChars? cs = some b ↔ cs = encodeChars b := by
  constructor
  · exact encodeChars_of_decodeChars?
  · rintro rfl
    exact decodeChars?_encodeChars b

/-- Decoding undoes encoding. -/
@[simp] theorem decode?_encode (b : Bytes) : decode? (encode b) = some b := by
  rw [decode?, encode, String.toList_ofList, decodeChars?_encodeChars]

/-- A text is accepted for some bytes exactly if it is what they are written as. -/
theorem decode?_eq_some_iff {s : String} {b : Bytes} : decode? s = some b ↔ s = encode b := by
  rw [decode?, decodeChars?_eq_some_iff, encode]
  constructor
  · intro h
    rw [← h, String.ofList_toList]
  · rintro rfl
    exact String.toList_ofList

/-- A text is refused exactly if no bytes are written as it. -/
theorem decode?_eq_none_iff {s : String} : decode? s = none ↔ ∀ b, s ≠ encode b := by
  rw [Option.eq_none_iff_forall_ne_some]
  exact forall_congr' fun b => not_congr decode?_eq_some_iff

/-- Different bytes have different texts. -/
theorem encode_inj {b b' : Bytes} : encode b = encode b' ↔ b = b' := by
  rw [← decode?_eq_some_iff, decode?_encode, Option.some.injEq]

/-- An encoded text holds nothing but digits and padding. -/
theorem mem_encodeChars {b : Bytes} {c : Char} (h : c ∈ encodeChars b) :
    c = '=' ∨ ∃ n < 64, c = digit n := by
  fun_induction encodeChars b with
  | case1 => cases h
  | case2 a n =>
    have ha := a.toNat_lt
    simp only [List.mem_cons, List.not_mem_nil, or_false] at h
    rcases h with rfl | rfl | rfl | rfl
    · exact .inr ⟨_, by omega, rfl⟩
    · exact .inr ⟨_, Nat.mod_lt _ (by decide), rfl⟩
    · exact .inl rfl
    · exact .inl rfl
  | case3 a b n =>
    have ha := a.toNat_lt
    have hb := b.toNat_lt
    simp only [List.mem_cons, List.not_mem_nil, or_false] at h
    rcases h with rfl | rfl | rfl | rfl
    · exact .inr ⟨_, by omega, rfl⟩
    · exact .inr ⟨_, Nat.mod_lt _ (by decide), rfl⟩
    · exact .inr ⟨_, Nat.mod_lt _ (by decide), rfl⟩
    · exact .inl rfl
  | case4 a b c rest n ih =>
    have ha := a.toNat_lt
    have hb := b.toNat_lt
    have hc := c.toNat_lt
    simp only [List.mem_cons] at h
    rcases h with rfl | rfl | rfl | rfl | h
    · exact .inr ⟨_, by omega, rfl⟩
    · exact .inr ⟨_, Nat.mod_lt _ (by decide), rfl⟩
    · exact .inr ⟨_, Nat.mod_lt _ (by decide), rfl⟩
    · exact .inr ⟨_, Nat.mod_lt _ (by decide), rfl⟩
    · exact ih h

/-- No other character is in an encoded text. -/
theorem notMem_encodeChars {b : Bytes} {c : Char} (hpadding : c ≠ '=') (hc : value? c = none) :
    c ∉ encodeChars b := by
  intro h
  rcases mem_encodeChars h with he | ⟨n, hn, he⟩
  · exact hpadding he
  · exact digit_ne hn hc he.symm

theorem slash_notMem_encodeChars (b : Bytes) : '/' ∉ encodeChars b :=
  notMem_encodeChars (by decide) rfl

/-- The text of bytes that do not come in threes is padded. -/
theorem equals_mem_encodeChars {b : Bytes} (h : b.length % 3 ≠ 0) : '=' ∈ encodeChars b := by
  fun_induction encodeChars b with
  | case1 => exact absurd rfl h
  | case2 => simp
  | case3 => simp
  | case4 a b c rest n ih =>
    have hrest : rest.length % 3 ≠ 0 := by
      simp only [List.length_cons] at h
      omega
    simp [ih hrest]

/-- An encoded text is ASCII. -/
theorem toNat_lt_of_mem_encodeChars {b : Bytes} {c : Char} (h : c ∈ encodeChars b) :
    c.toNat < 0x80 := by
  have hdigit : ∀ n < 64, (digit n).toNat < 0x80 := by decide
  rcases mem_encodeChars h with rfl | ⟨n, hn, rfl⟩
  · decide
  · exact hdigit n hn

/-- An encoded text has four characters for every three bytes, and four for what is left over. -/
theorem length_encodeChars (b : Bytes) : (encodeChars b).length = 4 * ((b.length + 2) / 3) := by
  fun_induction encodeChars b with
  | case1 => rfl
  | case2 => simp only [List.length_cons, List.length_nil, Nat.reduceAdd, Nat.reduceDiv]
  | case3 => simp only [List.length_cons, List.length_nil, Nat.reduceAdd, Nat.reduceDiv]
  | case4 a b c rest n ih =>
    simp only [List.length_cons, ih]
    omega

end ChatKeys.Base64
