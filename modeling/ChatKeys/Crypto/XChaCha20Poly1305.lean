/-
  ChatKeys.Crypto.XChaCha20Poly1305

  Authenticated encryption with a 32-byte key and a 24-byte nonce.

    * `encrypt` — the ciphertext, as long as the plaintext;
    * `tag` — the sixteen bytes that authenticate ciphertext and associated data;
    * `decrypt?` — the plaintext, provided that the tag is the right one;
    * `wrap` / `unwrap?` — the same with the tag behind the ciphertext.

  Encrypting is exclusive or with a keystream, so doing it twice gives back the
  text (`encrypt_encrypt`), and `decrypt?` succeeds on exactly the pairs that
  `encrypt` and `tag` produce (`decrypt?_eq_some_iff`), so that `unwrap?` undoes
  `wrap` (`unwrap?_wrap`).
-/
import ChatKeys.Crypto.ChaCha20
import ChatKeys.Crypto.Poly1305

namespace ChatKeys.XChaCha20Poly1305

def keySize : Nat := 32

def tagSize : Nat := 16

/-- The key of the inner cipher, from the key and the first part of the nonce. -/
def innerKey (key nonce : Bytes) : Bytes :=
  ChaCha20.subkey key (nonce.take 16)

/-- The nonce of the inner cipher: four zeros and the last part of the nonce. -/
def innerNonce (nonce : Bytes) : Bytes :=
  [0, 0, 0, 0] ++ nonce.drop 16

/-- The text combined with the keystream that starts at the second block. -/
def encrypt (key nonce text : Bytes) : Bytes :=
  Bytes.xor text (ChaCha20.keystream (innerKey key nonce) (innerNonce nonce) 1 text.length)

/-- The authenticator's key: the first half of the first keystream block. -/
def tagKey (key nonce : Bytes) : Bytes :=
  (ChaCha20.block (innerKey key nonce) (innerNonce nonce) 0).take 32

/-- What is authenticated: associated data and ciphertext, each filled up to a
    multiple of sixteen bytes, and both lengths. -/
def authenticated (associated ciphertext : Bytes) : Bytes :=
  Bytes.zeroPadded 16 associated ++ Bytes.zeroPadded 16 ciphertext
    ++ Bytes.ofNat 8 associated.length ++ Bytes.ofNat 8 ciphertext.length

def tag (key nonce associated ciphertext : Bytes) : Bytes :=
  Poly1305.tag (tagKey key nonce) (authenticated associated ciphertext)

/-- The plaintext, if the tag belongs to the ciphertext and associated data. -/
def decrypt? (key nonce associated ciphertext given : Bytes) : Option Bytes :=
  if given = tag key nonce associated ciphertext then some (encrypt key nonce ciphertext) else none

/-- The ciphertext with its tag behind it. -/
def wrap (key nonce associated plaintext : Bytes) : Bytes :=
  let ciphertext := encrypt key nonce plaintext
  ciphertext ++ tag key nonce associated ciphertext

/-- The plaintext of a ciphertext that has its tag behind it. -/
def unwrap? (key nonce associated wrapped : Bytes) : Option Bytes :=
  let n := wrapped.length - tagSize
  decrypt? key nonce associated (wrapped.take n) (wrapped.drop n)

/-! ## Laws -/

@[simp] theorem length_encrypt (key nonce text : Bytes) :
    (encrypt key nonce text).length = text.length := by
  simp [encrypt]

@[simp] theorem length_tag (key nonce associated ciphertext : Bytes) :
    (tag key nonce associated ciphertext).length = tagSize := by
  simp [tag, tagSize]

/-- The tag stands behind the ciphertext. -/
@[simp] theorem length_wrap (key nonce associated plaintext : Bytes) :
    (wrap key nonce associated plaintext).length = plaintext.length + tagSize := by
  simp [wrap]

theorem xor_xor (a k : Bytes) (h : a.length ≤ k.length) : Bytes.xor (Bytes.xor a k) k = a := by
  induction a generalizing k with
  | nil => simp [Bytes.xor]
  | cons x a ih =>
    cases k with
    | nil => simp at h
    | cons y k =>
      have : Bytes.xor (Bytes.xor a k) k = a := ih k (by simpa using h)
      simp only [Bytes.xor, List.zipWith_cons_cons, List.cons.injEq] at this ⊢
      exact ⟨by rw [UInt8.xor_assoc, UInt8.xor_self, UInt8.xor_zero], this⟩

@[simp] theorem encrypt_encrypt (key nonce text : Bytes) :
    encrypt key nonce (encrypt key nonce text) = text := by
  rw [encrypt, length_encrypt, encrypt]
  exact xor_xor _ _ (by simp)

theorem decrypt?_eq_some_iff {key nonce associated ciphertext given plaintext : Bytes} :
    decrypt? key nonce associated ciphertext given = some plaintext ↔
      ciphertext = encrypt key nonce plaintext ∧ given = tag key nonce associated ciphertext := by
  unfold decrypt?
  split
  · next h =>
    constructor
    · rintro ⟨rfl⟩
      exact ⟨(encrypt_encrypt ..).symm, h⟩
    · rintro ⟨rfl, -⟩
      simp
  · next h => simp [h]

@[simp] theorem decrypt?_encrypt (key nonce associated text : Bytes) :
    decrypt? key nonce associated (encrypt key nonce text)
      (tag key nonce associated (encrypt key nonce text)) = some text :=
  decrypt?_eq_some_iff.mpr ⟨rfl, rfl⟩

/-- What was wrapped is unwrapped again. -/
@[simp] theorem unwrap?_wrap (key nonce associated plaintext : Bytes) :
    unwrap? key nonce associated (wrap key nonce associated plaintext) = some plaintext := by
  have hlength : (wrap key nonce associated plaintext).length - tagSize = plaintext.length := by
    simp
  have hsplit : plaintext.length = (encrypt key nonce plaintext).length := by simp
  rw [unwrap?, hlength, wrap, hsplit, List.take_left, List.drop_left, decrypt?_encrypt]

theorem unwrap?_eq_some_iff {key nonce associated wrapped plaintext : Bytes} :
    unwrap? key nonce associated wrapped = some plaintext ↔
      wrapped = wrap key nonce associated plaintext := by
  constructor
  · intro h
    rw [unwrap?] at h
    obtain ⟨htext, htag⟩ := decrypt?_eq_some_iff.mp h
    rw [wrap, ← htext, ← htag, List.take_append_drop]
  · rintro rfl
    exact unwrap?_wrap key nonce associated plaintext

end ChatKeys.XChaCha20Poly1305
