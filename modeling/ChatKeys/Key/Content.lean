/-
  ChatKeys.Key.Content

  Encryption of content with a detached tag.  The nonce is derived from material
  that names the content, such as its identifier, so that nothing but the tag
  and the ciphertext has to be kept.

  Content may be of any length here. The cipher's keystream ends after 2 ^ 38 - 64
  bytes; `RawKey.sealContent` and `RawKey.openContent` say what happens from there on.
-/
import ChatKeys.Key.Basic
import ChatKeys.Crypto.KeyDerivation

namespace ChatKeys

/-- Encrypted content. -/
structure SealedContent where
  /-- The authentication tag. -/
  digest : Bytes
  /-- As long as the content. -/
  ciphertext : Bytes
deriving DecidableEq, Repr

/-- The label that content nonces are derived under. -/
def contentNonceLabel : Bytes := Bytes.ofString "parlorContentNonceV1"

/-- The nonce for content that some material names. -/
def contentNonce (material : Bytes) : Bytes :=
  Hkdf.expandShort (Hkdf.extract material) contentNonceLabel ivSize

namespace Key

/-- Encrypts content. -/
def sealContent (k : Key) (material content associated : Bytes) : Except KeyError SealedContent := do
  let key ← k.cipherSecret
  let nonce := contentNonce material
  let ciphertext := XChaCha20Poly1305.encrypt key.bytes nonce content
  let digest := XChaCha20Poly1305.tag key.bytes nonce associated ciphertext
  return { digest := digest, ciphertext := ciphertext }

/-- Decrypts content, provided that its tag is right. -/
def openContent (k : Key) (material : Bytes) (sealedContent : SealedContent) (associated : Bytes) :
    Except Error Bytes := do
  let key ← k.cipherSecret
  if sealedContent.digest.length ≠ XChaCha20Poly1305.tagSize then
    throw (.corrupted (.digestLength sealedContent.digest.length))
  match XChaCha20Poly1305.decrypt? key.bytes (contentNonce material) associated
      sealedContent.ciphertext sealedContent.digest with
  | some content => return content
  | none => throw .accessDenied

end Key

@[simp] theorem length_contentNonce (material : Bytes) : (contentNonce material).length = ivSize :=
  Hkdf.length_expandShort _ _ (by decide)

end ChatKeys
