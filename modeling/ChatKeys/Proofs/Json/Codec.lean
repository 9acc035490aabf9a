/-
  ChatKeys.Proofs.Json.Codec

  Values that survive being stored.

  `Codec.Restores c a` says that `a` has a text and that reading this text gives
  `a` again, at any place of a document where a value may stand; `Codec.ReadsBack`
  says which value is read if it need not be the same.  For a whole document this is
  `decodeText_text`.  The lemmas below give the law for every shape that codecs are
  made of, save records, which have a module of their own.
-/
import ChatKeys.Json.Codec
import ChatKeys.Proofs.Json.Integers
import ChatKeys.Proofs.Json.Strings
import ChatKeys.Proofs.Snowflake
import ChatKeys.Proofs.Text.Base64

namespace ChatKeys.Json.Codec

variable {α β : Type}

/-- The value can be written, and is read back from what is written. -/
def Restores (c : Codec α) (a : α) : Prop :=
  ∃ v, c.writer a = .ok v ∧
    ∀ rest, IsDelimited rest → c.reader (Bytes.ofChars v.chars ++ rest) = .ok (a, rest)

/-- The value can be written, and what is written is read as some value. -/
def ReadsBack (c : Codec α) (a a' : α) : Prop :=
  ∃ v, c.writer a = .ok v ∧
    ∀ rest, IsDelimited rest → c.reader (Bytes.ofChars v.chars ++ rest) = .ok (a', rest)

theorem Restores.readsBack {c : Codec α} {a : α} (h : c.Restores a) : c.ReadsBack a a := h

/-- The codec writes no value as `null`. -/
def AvoidsNull (c : Codec α) : Prop :=
  ∀ a, c.writer a ≠ .ok .null

/-! ## Documents -/

/-- A document gives the value that what is written in it is read as. -/
theorem ReadsBack.decode_text {c : Codec α} {a a' : α} (h : c.ReadsBack a a') :
    c.encode a = .ok (c.text a) ∧ c.decode (Bytes.ofString (c.text a)) = .ok a' := by
  obtain ⟨v, hv, hread⟩ := h
  have hencode : c.encode a = .ok v.render := by
    rw [encode, hv]
    rfl
  have htext : c.text a = v.render := by rw [text, hencode]
  have hdocument : c.reader (Bytes.ofString v.render) = .ok (a', []) := by
    have happly := hread [] trivial
    rwa [List.append_nil, ← Bytes.ofString_ofList] at happly
  refine ⟨by rw [hencode, htext], ?_⟩
  rw [htext, decode, read, hdocument]
  rfl

theorem Restores.encode_eq {c : Codec α} {a : α} (h : c.Restores a) :
    c.encode a = .ok (c.text a) :=
  h.readsBack.decode_text.1

/-- A stored value is read back from its document. -/
theorem Restores.decode_text {c : Codec α} {a : α} (h : c.Restores a) :
    c.decode (Bytes.ofString (c.text a)) = .ok a :=
  h.readsBack.decode_text.2

theorem Restores.decodeText_text {c : Codec α} {a : α} (h : c.Restores a) :
    c.decodeText (c.text a) = .ok a :=
  h.decode_text

/-- The value as it is read back from what is stored of it. -/
def reload (c : Codec α) (a : α) : Option α :=
  match c.encode a with
  | .ok document => (c.decodeText document).toOption
  | .error _ => none

theorem ReadsBack.reload_eq {c : Codec α} {a a' : α} (h : c.ReadsBack a a') :
    c.reload a = some a' := by
  obtain ⟨hencode, hdecode⟩ := h.decode_text
  rw [reload, hencode]
  show (c.decode (Bytes.ofString (c.text a))).toOption = some a'
  rw [hdecode]
  rfl

theorem Restores.reload_eq {c : Codec α} {a : α} (h : c.Restores a) : c.reload a = some a :=
  h.readsBack.reload_eq

/-! ## Scalars -/

theorem restores_string (s : String) : string.Restores s := by
  refine ⟨.string s, rfl, fun rest _ => ?_⟩
  obtain ⟨tail, htail, hread⟩ := ofChars_stringChars_eq_cons s
  rw [Value.chars, htail]
  show (Reader.peek >>= _) (0x22 :: (tail ++ rest)) = _
  rw [Reader.bind_of_ok (Reader.peek_cons rfl _), if_pos rfl, hread rest]

theorem restores_bool (b : Bool) : bool.Restores b := by
  cases b with
  | true =>
    refine ⟨.bool true, rfl, fun rest _ => ?_⟩
    show (Reader.peek >>= _) (0x74 :: ([0x72, 0x75, 0x65] ++ rest)) = _
    have hword : Reader.trueWord (0x74 :: ([0x72, 0x75, 0x65] ++ rest)) = .ok ((), rest) :=
      Reader.literal_append [0x74, 0x72, 0x75, 0x65] rest
    rw [Reader.bind_of_ok (Reader.peek_cons rfl _), if_pos rfl, Reader.bind_of_ok hword]
    rfl
  | false =>
    refine ⟨.bool false, rfl, fun rest _ => ?_⟩
    show (Reader.peek >>= _) (0x66 :: ([0x61, 0x6c, 0x73, 0x65] ++ rest)) = _
    have hword : Reader.falseWord (0x66 :: ([0x61, 0x6c, 0x73, 0x65] ++ rest)) = .ok ((), rest) :=
      Reader.literal_append [0x66, 0x61, 0x6c, 0x73, 0x65] rest
    rw [Reader.bind_of_ok (Reader.peek_cons rfl _), if_neg (by decide), if_pos rfl,
      Reader.bind_of_ok hword]
    rfl

/-- A written integer is handed on as the number that it is read as. -/
theorem integerReader_of_number {expected : String} {natural : UInt64 → Option α}
    {negative : Int → Option α} {n : Int} {number : Number} {a : α} {rest : Bytes}
    (hnumber : Reader.number (Bytes.ofChars (integerChars n) ++ rest) = .ok (number, rest))
    (ha : (match number with
      | .natural n => natural n
      | .negative n => negative n
      | .real => none) = some a) :
    integerReader expected natural negative (Bytes.ofChars (integerChars n) ++ rest)
      = .ok (a, rest) := by
  obtain ⟨b, tail, htext, hspace, hb⟩ := ofChars_integerChars_eq_cons n
  rw [htext, List.cons_append] at hnumber ⊢
  rw [integerReader, Reader.bind_of_ok (Reader.peek_cons hspace _), if_pos hb,
    Reader.bind_of_ok hnumber]
  cases number with
  | natural k => simp only [ha]; rfl
  | negative k => simp only [ha]; rfl
  | real => cases ha

theorem restores_uint32 (n : UInt32) : uint32.Restores n := by
  refine ⟨.integer n.toNat, rfl, fun rest hrest => ?_⟩
  have hlt : n.toNat < 2 ^ 32 := n.toNat_lt
  have hlt' : n.toNat < 2 ^ 64 := by omega
  have hnat : (UInt64.ofNat n.toNat).toNat = n.toNat := UInt64.toNat_ofNat_of_lt hlt'
  have hword : (UInt64.ofNat n.toNat).toUInt32 = n := by
    apply UInt32.toNat_inj.mp
    rw [UInt64.toNat_toUInt32, hnat, Nat.mod_eq_of_lt hlt]
  simp only [uint32, Value.chars]
  have hnumber := Reader.number_natural hlt' hrest
  exact integerReader_of_number hnumber (by simp only [hnat, if_pos hlt, hword])

/-- A written natural number is read as itself, whatever it is expected to be. -/
theorem integerReader_natural (expected : String) (n : UInt64) {rest : Bytes}
    (hrest : IsDelimited rest) :
    integerReader expected some (fun _ => none) (Bytes.ofChars (integerChars n.toNat) ++ rest)
      = .ok (n, rest) := by
  have hnumber := Reader.number_natural n.toNat_lt hrest
  exact integerReader_of_number hnumber (by simp only [UInt64.ofNat_toNat])

theorem restores_uint64 (n : UInt64) : uint64.Restores n :=
  ⟨.integer n.toNat, rfl, fun _ hrest => integerReader_natural "u64" n hrest⟩

theorem restores_size (n : UInt64) : size.Restores n :=
  ⟨.integer n.toNat, rfl, fun _ hrest => integerReader_natural "usize" n hrest⟩

theorem restores_int64 (n : Int64) : int64.Restores n := by
  refine ⟨.integer n.toInt, rfl, fun rest hrest => ?_⟩
  -- Negative and natural numbers are read in different ways.
  have hlt := n.toInt_lt
  simp only [int64, Value.chars]
  by_cases hneg : n.toInt < 0
  · have hnumber := Reader.number_negative hneg n.le_toInt hrest
    exact integerReader_of_number hnumber (by simp only [Int64.ofInt_toInt])
  · obtain ⟨m, hm⟩ := Int.eq_ofNat_of_zero_le (Int.not_lt.mp hneg)
    have hm' : m < 2 ^ 63 := by omega
    have hm'' : m < 2 ^ 64 := by omega
    have hnat : (UInt64.ofNat m).toNat = m := UInt64.toNat_ofNat_of_lt hm''
    have hword : Int64.ofNat m = n := by
      rw [← Int64.ofInt_eq_ofNat, ← hm, Int64.ofInt_toInt]
    rw [hm]
    have hnumber := Reader.number_natural hm'' hrest
    exact integerReader_of_number hnumber (by simp only [hnat, if_pos hm', hword])

/-! ## Composite shapes -/

/-- What is written of anything but nothing does not begin like `null`. -/
theorem peek_chars {v : Value} (h : v ≠ .null) (rest : Bytes) :
    ∃ b, b ≠ 0x6e ∧
      Reader.peek (Bytes.ofChars v.chars ++ rest) = .ok (b, Bytes.ofChars v.chars ++ rest) := by
  cases v with
  | null => exact absurd rfl h
  | bool b =>
    cases b
    · exact ⟨0x66, by decide, Reader.peek_cons rfl _⟩
    · exact ⟨0x74, by decide, Reader.peek_cons rfl _⟩
  | integer n =>
    obtain ⟨b, tail, htext, hspace, hb⟩ := ofChars_integerChars_eq_cons n
    refine ⟨b, ?_, ?_⟩
    · rintro rfl
      exact absurd hb (by decide)
    · rw [Value.chars, htext]
      exact Reader.peek_cons hspace _
  | string s =>
    obtain ⟨tail, htext, -⟩ := ofChars_stringChars_eq_cons s
    rw [Value.chars, htext]
    exact ⟨0x22, by decide, Reader.peek_cons rfl _⟩
  | object members =>
    rw [Value.chars, List.cons_append, Bytes.ofChars_cons]
    exact ⟨0x7b, by decide, Reader.peek_cons rfl _⟩

theorem Restores.some {c : Codec α} {a : α} (h : c.Restores a) (hc : c.AvoidsNull) :
    c.option.Restores (some a) := by
  obtain ⟨v, hv, hread⟩ := h
  refine ⟨v, hv, fun rest hrest => ?_⟩
  have hnull : v ≠ .null := by
    rintro rfl
    exact hc a hv
  -- The option's reader looks for the `n` of `null` before it hands over.
  obtain ⟨b, hb, hpeek⟩ := peek_chars hnull rest
  show (Reader.peek >>= _) _ = _
  rw [Reader.bind_of_ok hpeek, if_neg hb, Reader.bind_of_ok (hread rest hrest)]
  rfl

/-- A value that is seen through a conversion is read as what is made of its view. -/
theorem Restores.readsBack_refine {c : Codec α} {build : α → Except Error β} {view : β → α}
    {b b' : β} (h : c.Restores (view b)) (hb : build (view b) = .ok b') :
    (c.refine build view).ReadsBack b b' := by
  obtain ⟨v, hv, hread⟩ := h
  refine ⟨v, hv, fun rest hrest => ?_⟩
  show (c.reader >>= _) _ = _
  rw [Reader.bind_of_ok (hread rest hrest), hb]
  rfl

theorem Restores.refine {c : Codec α} {build : α → Except Error β} {view : β → α} {b : β}
    (h : c.Restores (view b)) (hb : build (view b) = .ok b) : (c.refine build view).Restores b :=
  h.readsBack_refine hb

theorem restores_bytes (b : Bytes) : bytes.Restores b :=
  (restores_string _).refine (by simp only [Base64.decode?_encode])

theorem restores_snowflake (s : Snowflake) : snowflake.Restores s :=
  (restores_string _).refine (by rw [Snowflake.parse_text]; rfl)

/-- A name of a closed set is read back if it names the variant that it labels. -/
theorem restores_choice {variants : List (String × α)} {label : α → String} {a : α}
    (h : variants.lookup (label a) = some a) : (choice variants label).Restores a := by
  refine ⟨.string (label a), rfl, fun rest hrest => ?_⟩
  obtain ⟨tail, htail, hread⟩ := ofChars_stringChars_eq_cons (label a)
  have hname : variantNamed variants (label a) = .ok a := by rw [variantNamed, h]
  rw [Value.chars, htail]
  show (Reader.peek >>= _) (0x22 :: (tail ++ rest)) = _
  rw [Reader.bind_of_ok (Reader.peek_cons rfl _), if_pos rfl, Reader.bind_of_ok (hread rest), hname]
  rfl

theorem avoidsNull_string : string.AvoidsNull := by
  rintro s ⟨⟩

theorem AvoidsNull.refine {c : Codec α} (h : c.AvoidsNull) (build : α → Except Error β)
    (view : β → α) : (c.refine build view).AvoidsNull :=
  fun b => h (view b)

theorem avoidsNull_snowflake : snowflake.AvoidsNull :=
  avoidsNull_string.refine _ _

end ChatKeys.Json.Codec
