/-
  ChatKeys.Capability

  Capabilities: a key sealed to whoever holds a recipient key.  The capability's
  identifier is the base64 text of the initialisation vector, so that a
  capability needs nothing beside it.

    * `Capability.issue` / `Capability.redeem` — to and with a recipient key;
    * `Capability.issueForPasscode` / `Capability.redeemWithPasscode` — the same
      with a key derived from a passcode.
-/
import ChatKeys.Key.Stored

namespace ChatKeys

open Json

/-- A sealed key. -/
structure Capability where
  /-- The base64 text of the vector. -/
  id : String
  /-- The sealed record, with its tag behind it. -/
  payload : Bytes
deriving DecidableEq, Repr

/-- What is sealed: the type and the bytes of a key. -/
structure SharedKey where
  type : KeyType
  bytes : Bytes
deriving DecidableEq, Repr

def SharedKey.record : Record (KeyType × Bytes × Unit) where
  name := "SharedKey"
  fields :=
    .cons { name := "key_type", codec := KeyType.codec } <|
    .cons { name := "key", codec := .bytes } .nil

def SharedKey.codec : Codec SharedKey :=
  SharedKey.record.codec (fun (type, bytes, _) => ⟨type, bytes⟩) fun k => (k.type, k.bytes, ())

namespace Capability

/-- What every payload is sealed along with. -/
def associatedData : Bytes := Bytes.ofString "parlor-capability"

def issue (recipient : Key) (iv : Bytes) (k : Key) : Except KeyError Capability := do
  let key ← recipient.cipherSecret
  if iv.length ≠ ivSize then throw (.invalidIv ivSize iv.length)
  let secret ← k.secret
  let shared := SharedKey.codec.text ⟨k.type, secret.bytes⟩
  return {
    id := Base64.encode iv
    payload := XChaCha20Poly1305.wrap key.bytes iv associatedData (Bytes.ofString shared) }

def redeem (c : Capability) (recipient : Key) : Except Error Key := do
  let key ← recipient.cipherSecret
  match Base64.decode? c.id with
  | none => throw (.corrupted .capabilityId)
  | some iv =>
    if iv.length ≠ ivSize then throw (.corrupted (.capabilityIv iv.length))
    match XChaCha20Poly1305.unwrap? key.bytes iv associatedData c.payload with
    | none => throw .accessDenied
    | some plaintext =>
      match SharedKey.codec.decode plaintext with
      | .error cause => throw (.corrupted (.capabilityPayload cause))
      | .ok shared => Key.ofPlaintext shared.type shared.bytes

def issueForPasscode (passcode salt : Bytes) (kdf : KdfParams) (iv : Bytes) (k : Key) :
    Except KeyError Capability :=
  issue (Key.ofPasscode passcode salt kdf) iv k

/-- Opens a capability with a passcode; salt and parameters must be the same as
    when it was sealed. -/
def redeemWithPasscode (c : Capability) (passcode salt : Bytes) (kdf : KdfParams) :
    Except Error Key :=
  c.redeem (Key.ofPasscode passcode salt kdf)

def record : Record (String × Bytes × Unit) where
  name := "Capability"
  fields :=
    .cons { name := "id", codec := .string } <|
    .cons { name := "encrypted_payload", codec := .bytes } .nil

def codec : Codec Capability :=
  record.codec (fun (id, payload, _) => ⟨id, payload⟩) fun c => (c.id, c.payload, ())

end Capability

end ChatKeys
