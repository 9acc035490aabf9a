/-
  ChatKeys.Key.Basic

  Managed keys.  A `Key` holds its material either in the clear, always of
  the size of a key, or wrapped under another key.

    * `Key.wrap` / `Key.unwrap` — from one state to the other, with
      XChaCha20-Poly1305 under the outer key; the key's type and context are
      authenticated along with it;
    * `Key.withIv` / `Key.withContext` — relabelling;
    * `Key.secret`, `Key.ciphertext`, `Key.cipherSecret` — access to the
      material, which depends on the state.
-/
import ChatKeys.Error
import ChatKeys.Crypto.XChaCha20Poly1305

namespace ChatKeys

/-- Key material in the clear. -/
structure KeyBytes where
  bytes : Bytes
  length_bytes : bytes.length = keySize
deriving DecidableEq, Repr

/-- The first bytes of a nonce as an initialisation vector, filled up with
    zeros. -/
def ivOfNonce (nonce : Bytes) : Bytes :=
  nonce.take ivSize ++ List.replicate (ivSize - nonce.length) 0

@[simp] theorem length_ivOfNonce (nonce : Bytes) : (ivOfNonce nonce).length = ivSize := by
  simp only [ivOfNonce, List.length_append, List.length_take, List.length_replicate]
  omega

/-- The material of a key. -/
inductive Material where
  | plain (secret : KeyBytes)
  | wrapped (ciphertext : Bytes)
deriving DecidableEq, Repr

/-- A key in one of its two states. -/
structure Key where
  type : KeyType
  /-- The initialisation vector for wrapping; empty if none was set. -/
  iv : Bytes
  context : Option KeyContext
  material : Material
deriving DecidableEq, Repr

namespace Key

/-! ## Making keys -/

/-- A key in the clear, without vector or context. -/
def ofSecret (type : KeyType) (secret : KeyBytes) : Key where
  type := type
  iv := []
  context := none
  material := .plain secret

/-- A key in the clear from bytes that must have the size of its type. -/
def ofPlaintext (type : KeyType) (plaintext : Bytes) : Except KeyError Key :=
  if h : plaintext.length = keySize then .ok (ofSecret type ⟨plaintext, h⟩)
  else .error (.invalidLength type.size plaintext.length)

/-- A wrapped key from its stored parts. -/
def ofCiphertext (type : KeyType) (iv ciphertext : Bytes) (context : Option KeyContext) : Key where
  type := type
  iv := iv
  context := context
  material := .wrapped ciphertext

/-- The same key with another vector. -/
def withIv (k : Key) (iv : Bytes) : Key :=
  { k with iv := iv }

/-- The same key with another context. -/
def withContext (k : Key) (scope value : String) : Key :=
  { k with context := some ⟨scope, value⟩ }

/-! ## Looking at keys -/

def isEncrypted (k : Key) : Bool :=
  match k.material with
  | .plain _ => false
  | .wrapped _ => true

/-- The material in the clear. -/
def secret (k : Key) : Except KeyError KeyBytes :=
  match k.material with
  | .plain secret => .ok secret
  | .wrapped _ => .error .mustBeDecrypted

/-- The wrapped material. -/
def ciphertext (k : Key) : Except KeyError Bytes :=
  match k.material with
  | .plain _ => .error .alreadyDecrypted
  | .wrapped ciphertext => .ok ciphertext

/-- The material as a key of the cipher: the key must be symmetric, and in the
    clear. -/
def cipherSecret (k : Key) : Except KeyError KeyBytes :=
  if k.type.isSymmetric then k.secret
  else .error (.incompatibleType .xchacha20poly1305 k.type)

/-- The vector as a nonce of the cipher. -/
def nonce (k : Key) : Except KeyError Bytes :=
  if k.iv.length = ivSize then .ok k.iv else .error (.invalidIv ivSize k.iv.length)

/-- What is authenticated along with the material: the type, and behind a zero
    byte the context. -/
def associatedData (k : Key) : Bytes :=
  Bytes.ofString k.type.label ++
    match k.context with
    | none => []
    | some c => 0 :: Bytes.ofString c.scope ++ 0x3d :: Bytes.ofString c.value

/-! ## Wrapping -/

/-- The key wrapped under an outer key. -/
def wrap (k outer : Key) : Except KeyError Key :=
  match k.material with
  | .wrapped _ => .error .alreadyEncrypted
  | .plain secret => do
    let key ← outer.cipherSecret
    let nonce ← k.nonce
    let ciphertext := XChaCha20Poly1305.wrap key.bytes nonce k.associatedData secret.bytes
    return { k with material := .wrapped ciphertext }

/-- The key as it was before it was wrapped under an outer key. -/
def unwrap (k outer : Key) : Except Error Key :=
  match k.material with
  | .plain _ => .error (.keyState .alreadyDecrypted)
  | .wrapped ciphertext => do
    let key ← outer.cipherSecret
    let nonce ← k.nonce
    match XChaCha20Poly1305.unwrap? key.bytes nonce k.associatedData ciphertext with
    | none => .error .accessDenied
    | some plaintext =>
      if h : plaintext.length = keySize then
        return { k with material := .plain ⟨plaintext, h⟩ }
      else .error (.keyState (.invalidLength k.type.size plaintext.length))

end Key

end ChatKeys
