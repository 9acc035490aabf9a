/-
  ChatKeys.Proofs.Crypto.Tags

  What a tag says about the key and the associated data that a text was wrapped
  with.

  Under any key and along with any data a wrapped text opens exactly if it has the
  same tag there (`unwrap?_wrap_eq_ite`), under another key than its own therefore
  only if the two collide (`unwrap?_wrap_of_ne`).  What the authenticator is given
  determines the data (`authenticated_inj`), so under one key different data have
  the same tag only if two messages collide under a key of Poly1305
  (`tag_eq_tag_iff`).  Under a key whose multiplier is zero all messages collide, so
  collisions cannot be ruled out; what depends on one says so in its conclusion.
-/
import ChatKeys.Crypto.XChaCha20Poly1305

namespace ChatKeys

namespace Bytes

/-- Of a number the bytes give what is below the weight that they have room for. -/
theorem toNat_ofNat (width n : Nat) : toNat (ofNat width n) = n % 256 ^ width := by
  induction width generalizing n with
  | zero => simp [ofNat, toNat, Nat.mod_one]
  | succ w ih =>
    have hlow : (UInt8.ofNat n).toNat = n % 256 := UInt8.toNat_ofNat'
    rw [ofNat, toNat, ih, hlow, Nat.pow_succ, Nat.mul_comm (256 ^ w) 256, Nat.mod_mul]

theorem length_zeroPadded (size : Nat) (b : Bytes) :
    (zeroPadded size b).length = b.length + (size - b.length % size) % size := by
  simp [zeroPadded]

/-- Among byte strings of one length the padding loses nothing. -/
theorem zeroPadded_inj {size : Nat} {b b' : Bytes} (hlength : b.length = b'.length)
    (h : zeroPadded size b = zeroPadded size b') : b = b' :=
  (List.append_inj h hlength).1

end Bytes

namespace Poly1305

/-- Two messages that one key gives the same tag. -/
structure Collision (key m m' : Bytes) : Prop where
  ne : m ≠ m'
  tag_eq : tag key m = tag key m'

end Poly1305

namespace XChaCha20Poly1305

/-- Of a ciphertext's associated data nothing is lost in what is authenticated. -/
theorem authenticated_inj {associated associated' ciphertext : Bytes}
    (h : authenticated associated ciphertext = authenticated associated' ciphertext) :
    associated = associated' := by
  -- Both are filled up to the same length, which leaves less than a group of sixteen open.
  have hpadded : (Bytes.zeroPadded 16 associated).length
      = (Bytes.zeroPadded 16 associated').length := by
    have hlength := congrArg List.length h
    simp only [authenticated, List.length_append, Bytes.length_ofNat] at hlength
    omega
  simp only [authenticated, List.append_assoc] at h
  obtain ⟨hdata, hbehind⟩ := List.append_inj h hpadded
  obtain ⟨hcount, -⟩ := List.append_inj (List.append_cancel_left hbehind) (by simp)
  -- The count modulo 2 ^ 64 decides between the lengths that are left.
  have hmod : associated.length % 256 ^ 8 = associated'.length % 256 ^ 8 := by
    rw [← Bytes.toNat_ofNat, hcount, Bytes.toNat_ofNat]
  have hlength : associated.length = associated'.length := by
    rw [Bytes.length_zeroPadded, Bytes.length_zeroPadded] at hpadded
    omega
  exact Bytes.zeroPadded_inj hlength hdata

/-- Different associated data have the same tag only by a collision. -/
theorem tag_eq_tag_iff {key nonce associated associated' ciphertext : Bytes} :
    tag key nonce associated ciphertext = tag key nonce associated' ciphertext ↔
      associated = associated' ∨
        Poly1305.Collision (tagKey key nonce) (authenticated associated ciphertext)
          (authenticated associated' ciphertext) := by
  constructor
  · intro h
    by_cases hassociated : associated = associated'
    · exact .inl hassociated
    · exact .inr ⟨fun heq => hassociated (authenticated_inj heq), h⟩
  · rintro (rfl | hcollision)
    · rfl
    · exact hcollision.tag_eq

/-- Two keys under which a ciphertext has the same tag. -/
structure KeyCollision (key key' nonce associated ciphertext : Bytes) : Prop where
  ne : key ≠ key'
  tag_eq : tag key nonce associated ciphertext = tag key' nonce associated ciphertext

/-- The tag takes up what is behind the ciphertext. -/
theorem length_wrap_sub_tagSize (key nonce associated text : Bytes) :
    (wrap key nonce associated text).length - tagSize = (encrypt key nonce text).length := by
  simp [wrap]

/-- Under another key and along with other data a wrapped text opens exactly if the
    tag is the same. -/
theorem unwrap?_wrap_eq_ite (key key' nonce associated associated' text : Bytes) :
    unwrap? key' nonce associated' (wrap key nonce associated text) =
      if tag key nonce associated (encrypt key nonce text)
          = tag key' nonce associated' (encrypt key nonce text)
      then some (encrypt key' nonce (encrypt key nonce text)) else none := by
  rw [unwrap?, length_wrap_sub_tagSize, wrap, List.take_left, List.drop_left, decrypt?]

/-- A wrapped text without the tag behind it. -/
def withoutTag (wrapped : Bytes) : Bytes :=
  wrapped.take (wrapped.length - tagSize)

theorem withoutTag_wrap (key nonce associated text : Bytes) :
    withoutTag (wrap key nonce associated text) = encrypt key nonce text := by
  rw [withoutTag, length_wrap_sub_tagSize, wrap, List.take_left]

/-- Under another key a wrapped text opens only if the two keys collide. -/
theorem unwrap?_wrap_of_ne {key key' : Bytes} (hne : key ≠ key') (nonce associated text : Bytes) :
    unwrap? key' nonce associated (wrap key nonce associated text) = none ∨
      KeyCollision key key' nonce associated (withoutTag (wrap key nonce associated text)) := by
  rw [unwrap?_wrap_eq_ite, withoutTag_wrap]
  by_cases htag : tag key nonce associated (encrypt key nonce text)
      = tag key' nonce associated (encrypt key nonce text)
  · exact .inr ⟨hne, htag⟩
  · exact .inl (if_neg htag)

end XChaCha20Poly1305

end ChatKeys
