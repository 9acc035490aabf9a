/-
  ChatKeys.Bytes

  Byte strings as lists of octets, and the three views of them that the rest of
  the library uses:

    * `Bytes.ofString` / `Bytes.toString?` — the UTF-8 form of a text, and its
      partial inverse;
    * `Bytes.toNat` / `Bytes.ofNat` — little-endian numbers of a given width;
    * `wordsLE`, `wordsBE` and `UInt32.bytesLE`, `UInt32.bytesBE` — 32-bit words
      in either byte order.

  The small laws beside the definitions give the length of every result and say
  that `toString?` undoes `ofString`.
-/

-- Powers of numbers are the built-in ones, whatever else is imported beside this module.
attribute [instance (high), default_instance (high + 1)] instPowNat

namespace ChatKeys

/-- A byte string. -/
abbrev Bytes := List UInt8

namespace Bytes

/-! ## Text -/

/-- The UTF-8 form of a text. -/
def ofString (s : String) : Bytes :=
  s.toByteArray.data.toList

/-- The text whose UTF-8 form this is, if it is well-formed UTF-8. -/
def toString? (b : Bytes) : Option String :=
  String.fromUTF8? ⟨b.toArray⟩

/-! ## Numbers -/

/-- The number whose little-endian digits to base 256 are these bytes. -/
def toNat : Bytes → Nat
  | [] => 0
  | b :: rest => b.toNat + 256 * toNat rest

/-- The lowest `width` little-endian digits to base 256 of a number. -/
def ofNat : (width : Nat) → Nat → Bytes
  | 0, _ => []
  | width + 1, n => UInt8.ofNat n :: ofNat width (n / 256)

@[simp] theorem length_ofNat (width n : Nat) : (ofNat width n).length = width := by
  induction width generalizing n with
  | zero => rfl
  | succ w ih => simp [ofNat, ih]

/-! ## Combining -/

/-- Byte-wise exclusive or; the result is as long as the shorter of the two. -/
def xor (a b : Bytes) : Bytes :=
  List.zipWith (· ^^^ ·) a b

@[simp] theorem length_xor (a b : Bytes) : (xor a b).length = min a.length b.length := by
  simp [xor]

/-- The bytes, followed by as many zeros as fill up the last group of `size`. -/
def zeroPadded (size : Nat) (b : Bytes) : Bytes :=
  b ++ List.replicate ((size - b.length % size) % size) 0

/-- The bytes cut into pieces of `size`; the last piece may be shorter. -/
def chunks (size : Nat) (b : Bytes) : List Bytes :=
  go (b.length / size + 1) b
where
  go : Nat → Bytes → List Bytes
    | 0, _ => []
    | _, [] => []
    | n + 1, b => b.take size :: go n (b.drop size)

end Bytes

/-! ## Words -/

/-- The four bytes of a word, least significant first. -/
def bytesLE (w : UInt32) : Bytes :=
  [w.toUInt8, (w >>> 8).toUInt8, (w >>> 16).toUInt8, (w >>> 24).toUInt8]

/-- The four bytes of a word, most significant first. -/
def bytesBE (w : UInt32) : Bytes :=
  [(w >>> 24).toUInt8, (w >>> 16).toUInt8, (w >>> 8).toUInt8, w.toUInt8]

/-- The words of a byte string, least significant byte first; up to three
    bytes left over at the end are dropped. -/
def wordsLE : Bytes → List UInt32
  | b₀ :: b₁ :: b₂ :: b₃ :: rest =>
    (b₀.toUInt32 ||| b₁.toUInt32 <<< 8 ||| b₂.toUInt32 <<< 16 ||| b₃.toUInt32 <<< 24)
      :: wordsLE rest
  | _ => []

/-- The words of a byte string, most significant byte first; up to three bytes
    left over at the end are dropped. -/
def wordsBE : Bytes → List UInt32
  | b₀ :: b₁ :: b₂ :: b₃ :: rest =>
    (b₀.toUInt32 <<< 24 ||| b₁.toUInt32 <<< 16 ||| b₂.toUInt32 <<< 8 ||| b₃.toUInt32)
      :: wordsBE rest
  | _ => []

/-- The word rotated left by `n` bits, for `0 < n < 32`. -/
@[inline] def rotateLeft (w : UInt32) (n : UInt32) : UInt32 :=
  w <<< n ||| w >>> (32 - n)

/-- The word rotated right by `n` bits, for `0 < n < 32`. -/
@[inline] def rotateRight (w : UInt32) (n : UInt32) : UInt32 :=
  w >>> n ||| w <<< (32 - n)

@[simp] theorem length_bytesLE (w : UInt32) : (bytesLE w).length = 4 := rfl

@[simp] theorem length_bytesBE (w : UInt32) : (bytesBE w).length = 4 := rfl

namespace Bytes

/-- Reading back the UTF-8 form of a text gives the text. -/
@[simp] theorem toString?_ofString (s : String) : toString? (ofString s) = some s := by
  simp only [toString?, ofString, String.fromUTF8?]
  exact dif_pos s.isValidUTF8

end Bytes

end ChatKeys
