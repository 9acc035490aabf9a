/-
  ChatKeys.Proofs.Key.Wrapping

  Wrapping and unwrapping undo each other: a wrapped key opens to exactly the key
  that it was wrapped from.

    * `Key.unwrap_eq_ok_iff`, `KeyPair.unwrap_eq_ok_iff` — for keys and for key
      pairs;
    * `Key.wrap_eq_ok_iff`, `Key.exists_wrap_iff` — what wrapping gives, and when;
    * `Key.wrap_unwrap_exact` — so a key has one wrapped form under an outer key, and no
      other ciphertext opens to it;
    * `Key.wrap_congr`, `Key.unwrap_congr` — of the outer key only the secret counts, not its
      vector or context, and for refusals too;
    * `KeyPair.ofSecret_eq_ok_iff` — which bytes are the secret of a pair.
-/
import Mathlib.Logic.ExistsUnique
import ChatKeys.Key.Pair
import ChatKeys.Proofs.Key.Content
import ChatKeys.Proofs.Results

namespace ChatKeys

namespace Key

variable {k w outer : Key}

/-! ## What stays -/

@[simp] theorem cipherSecret_withIv (k : Key) (iv : Bytes) :
    (k.withIv iv).cipherSecret = k.cipherSecret := rfl

@[simp] theorem isEncrypted_withIv (k : Key) (iv : Bytes) :
    (k.withIv iv).isEncrypted = k.isEncrypted := rfl

@[simp] theorem withIv_withIv (k : Key) (iv iv' : Bytes) :
    (k.withIv iv).withIv iv' = k.withIv iv' := rfl

theorem exists_plain (h : k.isEncrypted = false) : ∃ secret, k.material = .plain secret := by
  rw [isEncrypted] at h
  cases hk : k.material with
  | plain secret => exact ⟨secret, rfl⟩
  | wrapped ciphertext => rw [hk] at h; cases h

theorem nonce_eq_ok_iff {iv : Bytes} : k.nonce = .ok iv ↔ k.iv.length = ivSize ∧ iv = k.iv := by
  rw [nonce]
  split
  · next h => simp [h, eq_comm]
  · next h => simp [h]

/-! ## Wrapping -/

/-- What wrapping gives: the same labels, with the material under the outer key. -/
theorem wrap_eq_ok_iff :
    k.wrap outer = .ok w ↔
      ∃ secret key, k.material = .plain secret ∧ outer.cipherSecret = .ok key ∧
        k.iv.length = ivSize ∧
        w = ofCiphertext k.type k.iv
          (XChaCha20Poly1305.wrap key.bytes k.iv k.associatedData secret.bytes) k.context := by
  rw [wrap]
  cases hk : k.material with
  | wrapped ciphertext => simp
  | plain secret =>
    simp only [bind_eq_ok_iff, nonce_eq_ok_iff, pure_eq_ok_iff]
    constructor
    · rintro ⟨key, hkey, _, ⟨hiv, rfl⟩, rfl⟩
      exact ⟨secret, key, rfl, hkey, hiv, rfl⟩
    · rintro ⟨_, key, ⟨⟩, hkey, hiv, rfl⟩
      exact ⟨key, hkey, k.iv, ⟨hiv, rfl⟩, rfl⟩

theorem exists_wrap {secret : KeyBytes} (hk : k.material = .plain secret)
    (houter : outer.isUsable = true) (hiv : k.iv.length = ivSize) :
    ∃ w, k.wrap outer = .ok w := by
  obtain ⟨key, hkey⟩ := isUsable_iff.1 houter
  exact ⟨_, wrap_eq_ok_iff.2 ⟨secret, key, hk, hkey, hiv, rfl⟩⟩

theorem isEncrypted_of_wrap (h : k.wrap outer = .ok w) : w.isEncrypted = true := by
  obtain ⟨_, _, -, -, -, rfl⟩ := wrap_eq_ok_iff.1 h
  rfl

theorem not_isEncrypted_of_wrap (h : k.wrap outer = .ok w) : k.isEncrypted = false := by
  obtain ⟨secret, _, hmaterial, -⟩ := wrap_eq_ok_iff.1 h
  rw [isEncrypted, hmaterial]

theorem context_of_wrap (h : k.wrap outer = .ok w) : w.context = k.context := by
  obtain ⟨_, _, -, -, -, rfl⟩ := wrap_eq_ok_iff.1 h
  rfl

theorem iv_of_wrap (h : k.wrap outer = .ok w) : w.iv = k.iv := by
  obtain ⟨_, _, -, -, -, rfl⟩ := wrap_eq_ok_iff.1 h
  rfl

theorem isUsable_of_wrap (h : k.wrap outer = .ok w) : outer.isUsable = true := by
  obtain ⟨_, key, -, hkey, -⟩ := wrap_eq_ok_iff.1 h
  exact isUsable_iff.2 ⟨key, hkey⟩

/-- Among keys of the cipher the secret decides. -/
theorem cipherSecret_congr {k' : Key} (hk : k.isUsable = true) (hk' : k'.isUsable = true)
    (h : k.secret = k'.secret) : k.cipherSecret = k'.cipherSecret := by
  simp only [isUsable, Bool.and_eq_true] at hk hk'
  rw [cipherSecret, cipherSecret, if_pos hk.1, if_pos hk'.1, h]

theorem wrap_congr {outer' : Key} (h : outer.cipherSecret = outer'.cipherSecret) :
    k.wrap outer = k.wrap outer' := by
  rw [wrap, wrap, h]

/-! ## Unwrapping -/

/-- Whatever comes of unwrapping, a key or a refusal, depends only on the secret of the outer
    key. -/
theorem unwrap_congr {outer' : Key} (h : outer.cipherSecret = outer'.cipherSecret) :
    w.unwrap outer = w.unwrap outer' := by
  rw [unwrap, unwrap, h]

/-- A wrapped key opens to exactly the key that it was wrapped from. -/
theorem unwrap_eq_ok_iff : w.unwrap outer = .ok k ↔ k.wrap outer = .ok w := by
  rw [wrap_eq_ok_iff, unwrap]
  obtain ⟨type, iv, context, material⟩ := w
  cases material with
  | plain secret => simp [ofCiphertext]
  | wrapped ciphertext =>
    -- Type, vector and context are the same on both sides, so the cipher's law decides.
    simp only [bind_eq_ok_iff, liftM_eq_ok_iff, nonce_eq_ok_iff]
    constructor
    · rintro ⟨key, hkey, _, ⟨hiv, rfl⟩, h⟩
      split at h
      · cases h
      · next plaintext hopen =>
        split at h
        · next hlength =>
          obtain rfl := Except.ok.inj h
          rw [XChaCha20Poly1305.unwrap?_eq_some_iff.1 hopen]
          exact ⟨⟨plaintext, hlength⟩, key, rfl, hkey, hiv, rfl⟩
        · cases h
    · rintro ⟨secret, key, hk, hkey, hiv, hw⟩
      have hopen :=
        XChaCha20Poly1305.unwrap?_wrap key.bytes k.iv k.associatedData secret.bytes
      obtain ⟨_, _, _, _⟩ := k
      cases hk
      cases hw
      refine ⟨key, hkey, _, ⟨hiv, rfl⟩, ?_⟩
      split
      · next hnone => cases hopen.symm.trans hnone
      · next plaintext hsome =>
        obtain rfl : secret.bytes = plaintext := Option.some.inj (hopen.symm.trans hsome)
        rw [dif_pos secret.length_bytes]
        rfl

/-! ## One wrapped form -/

/-- Wrapping takes a key in the clear with a vector of the right size, and a key of the
    cipher to wrap it under. -/
theorem exists_wrap_iff :
    (∃ w, k.wrap outer = .ok w) ↔
      k.isEncrypted = false ∧ outer.isUsable = true ∧ k.iv.length = ivSize := by
  constructor
  · rintro ⟨w, hw⟩
    obtain ⟨_, _, -, -, hiv, -⟩ := wrap_eq_ok_iff.1 hw
    exact ⟨not_isEncrypted_of_wrap hw, isUsable_of_wrap hw, hiv⟩
  · rintro ⟨hplain, houter, hiv⟩
    obtain ⟨secret, hk⟩ := exists_plain hplain
    exact exists_wrap hk houter hiv

/-- A wrapped key keeps the labels, and its material is the key with a tag behind it. -/
theorem exists_ciphertext_of_wrap (h : k.wrap outer = .ok w) :
    ∃ ciphertext, w = ofCiphertext k.type k.iv ciphertext k.context ∧ ciphertext.length = 48 := by
  obtain ⟨secret, key, -, -, -, rfl⟩ := wrap_eq_ok_iff.1 h
  refine ⟨_, rfl, ?_⟩
  rw [XChaCha20Poly1305.length_wrap, secret.length_bytes]
  rfl

/-- Of all ciphertexts under the labels of a key, one opens to this key if it can be
    wrapped at all. -/
theorem existsUnique_ciphertext_iff :
    (∃! ciphertext, (ofCiphertext k.type k.iv ciphertext k.context).unwrap outer = .ok k) ↔
      ∃ w, k.wrap outer = .ok w := by
  simp only [unwrap_eq_ok_iff]
  constructor
  · rintro ⟨ciphertext, hw, -⟩
    exact ⟨_, hw⟩
  · rintro ⟨w, hw⟩
    obtain ⟨ciphertext, rfl, -⟩ := exists_ciphertext_of_wrap hw
    refine ⟨ciphertext, hw, fun other hother => ?_⟩
    -- Wrapping is a function, so the two wrapped keys are one.
    have hsame := Except.ok.inj (hother.symm.trans hw)
    exact Material.wrapped.inj (congrArg Key.material hsame)

/-- Unwrapping is exactly the inverse of wrapping. A key is wrapped if it is in the clear,
    its vector has the right size and the outer key is a key of the cipher in the clear;
    what comes of it has the key's labels and a ciphertext of 48 bytes, and opens to the
    key again. Whatever opens to a key, wherever it comes from, is what the key is wrapped
    to, so of all ciphertexts under its labels exactly one is accepted. -/
theorem wrap_unwrap_exact (k outer : Key) :
    ((∃ w, k.wrap outer = .ok w) ↔
      k.isEncrypted = false ∧ outer.isUsable = true ∧ k.iv.length = ivSize) ∧
    (∀ w, k.wrap outer = .ok w →
      (∃ ciphertext, w = ofCiphertext k.type k.iv ciphertext k.context ∧
        ciphertext.length = 48) ∧ w.unwrap outer = .ok k) ∧
    (∀ w, w.unwrap outer = .ok k → k.wrap outer = .ok w) ∧
    ((∃! ciphertext, (ofCiphertext k.type k.iv ciphertext k.context).unwrap outer = .ok k) ↔
      k.isEncrypted = false ∧ outer.isUsable = true ∧ k.iv.length = ivSize) := by
  refine ⟨exists_wrap_iff, fun w hw => ?_, fun w hw => ?_, ?_⟩
  · exact ⟨exists_ciphertext_of_wrap hw, unwrap_eq_ok_iff.2 hw⟩
  · exact unwrap_eq_ok_iff.1 hw
  · rw [existsUnique_ciphertext_iff, exists_wrap_iff]

/-- The example key under itself, with a vector of zeros. -/
theorem wrap_unwrap_exact_example :
    let k := exampleKey.withIv (List.replicate ivSize 0)
    ∃ ciphertext, k.wrap exampleKey = .ok (ofCiphertext k.type k.iv ciphertext k.context) ∧
      ciphertext.length = 48 ∧
      (ofCiphertext k.type k.iv ciphertext k.context).unwrap exampleKey = .ok k ∧
      ∀ w, w.unwrap exampleKey = .ok k → w = ofCiphertext k.type k.iv ciphertext k.context := by
  intro k
  obtain ⟨hexists, hopens, hback, -⟩ := wrap_unwrap_exact k exampleKey
  obtain ⟨w, hw⟩ := hexists.mpr ⟨rfl, rfl, rfl⟩
  obtain ⟨⟨ciphertext, rfl, hlength⟩, hopen⟩ := hopens w hw
  exact ⟨ciphertext, hw, hlength, hopen, fun w' hw' => Except.ok.inj ((hback w' hw').symm.trans hw)⟩

end Key

/-! ## Key pairs -/

namespace KeyPair

variable {p q : KeyPair} {outer : Key}

theorem wrap_eq_ok_iff :
    p.wrap outer = .ok q ↔
      ∃ key, p.privateKey.wrap outer = .ok key ∧ q = { p with privateKey := key } := by
  simp only [wrap, bind_eq_ok_iff, pure_eq_ok_iff]

theorem exists_wrap {secret : KeyBytes} (hp : p.privateKey.material = .plain secret)
    (houter : outer.isUsable = true) (hiv : p.iv.length = ivSize) :
    ∃ q, p.wrap outer = .ok q := by
  obtain ⟨key, hkey⟩ := Key.exists_wrap hp houter hiv
  exact ⟨_, wrap_eq_ok_iff.2 ⟨key, hkey, rfl⟩⟩

theorem isEncrypted_of_wrap (h : p.wrap outer = .ok q) : q.isEncrypted = true := by
  obtain ⟨key, hkey, rfl⟩ := wrap_eq_ok_iff.1 h
  exact Key.isEncrypted_of_wrap hkey

theorem iv_of_wrap (h : p.wrap outer = .ok q) : q.iv = p.iv := by
  obtain ⟨key, hkey, rfl⟩ := wrap_eq_ok_iff.1 h
  exact Key.iv_of_wrap hkey

theorem publicKey_of_wrap (h : p.wrap outer = .ok q) : q.publicKey = p.publicKey := by
  obtain ⟨key, -, rfl⟩ := wrap_eq_ok_iff.1 h
  rfl

/-- A wrapped pair opens to exactly the pair that it was wrapped from. -/
theorem unwrap_eq_ok_iff : q.unwrap outer = .ok p ↔ p.wrap outer = .ok q := by
  rw [wrap_eq_ok_iff, unwrap]
  simp only [bind_eq_ok_iff, pure_eq_ok_iff, Key.unwrap_eq_ok_iff]
  constructor
  · rintro ⟨key, hkey, rfl⟩
    exact ⟨q.privateKey, hkey, rfl⟩
  · rintro ⟨key, hkey, rfl⟩
    exact ⟨p.privateKey, hkey, rfl⟩

theorem wrap_congr {outer' : Key} (h : outer.cipherSecret = outer'.cipherSecret) :
    p.wrap outer = p.wrap outer' := by
  rw [wrap, wrap, Key.wrap_congr h]

theorem unwrap_congr {outer' : Key} (h : outer.cipherSecret = outer'.cipherSecret) :
    q.unwrap outer = q.unwrap outer' := by
  rw [unwrap, unwrap, Key.unwrap_congr h]

/-- The pair of a secret of the right size. -/
theorem ofSecret_of_length {secret : Bytes} (h : secret.length = keySize) :
    ofSecret secret =
      .ok ⟨X25519.publicKey secret, .ofSecret .x25519 ⟨secret, h⟩⟩ := by
  rw [ofSecret, Key.ofPlaintext, dif_pos h]
  rfl

/-- Only the bytes of a key make a pair. -/
theorem ofSecret_eq_ok_iff {bytes : Bytes} :
    ofSecret bytes = .ok p ↔ ∃ secret : KeyBytes, secret.bytes = bytes ∧
      p = ⟨X25519.publicKey secret.bytes, .ofSecret .x25519 secret⟩ := by
  constructor
  · intro h
    by_cases hlength : bytes.length = keySize
    · rw [ofSecret_of_length hlength] at h
      exact ⟨⟨bytes, hlength⟩, rfl, (Except.ok.inj h).symm⟩
    · rw [ofSecret, Key.ofPlaintext, dif_neg hlength] at h
      cases h
  · rintro ⟨secret, rfl, rfl⟩
    exact ofSecret_of_length secret.length_bytes

end KeyPair

end ChatKeys
