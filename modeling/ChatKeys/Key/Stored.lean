/-
  ChatKeys.Key.Stored

  The stored forms of keys, key pairs and derivation parameters.  Only wrapped
  keys have one: a key in the clear is refused when it is written.
-/
import ChatKeys.Key.Pair
import ChatKeys.Key.Derived
import ChatKeys.Json.Record

namespace ChatKeys

open Json

def KeyType.codec : Codec KeyType :=
  .choice KeyType.variants KeyType.label

def KeyContext.record : Record (String × String × Unit) where
  name := "KeyContext"
  fields :=
    .cons { name := "namespace", codec := .string } <|
    .cons { name := "value", codec := .string } .nil

def KeyContext.codec : Codec KeyContext :=
  KeyContext.record.codec (fun (scope, value, _) => ⟨scope, value⟩) fun c => (c.scope, c.value, ())

def Key.record : Record (KeyType × Bytes × Bytes × Option KeyContext × Unit) where
  name := "StoredKey"
  fields :=
    .cons { name := "key_type", codec := KeyType.codec } <|
    .cons { name := "iv", codec := .bytes } <|
    .cons { name := "ciphertext", codec := .bytes } <|
    .cons (.optional "context" KeyContext.codec) .nil

/-- The stored form of a wrapped key. -/
def Key.codec : Codec Key where
  reader := Key.record.reader fun (type, iv, ciphertext, context, _) =>
    .ok (Key.ofCiphertext type iv ciphertext context)
  writer k :=
    match k.material with
    | .plain _ => .error .plainKey
    | .wrapped ciphertext => Key.record.writer (k.type, k.iv, ciphertext, k.context, ())

/-- The members of a stored key pair. Its type is named, but there is one only. -/
def KeyPair.record : Record (Unit × Bytes × Key × Unit) where
  name := "ManagedKeyPair"
  fields :=
    .cons { name := "key_pair_type", codec := .choice [("x25519", ())] fun _ => "x25519" } <|
    .cons { name := "public_key", codec := .bytes } <|
    .cons { name := "private_key", codec := Key.codec } .nil

def KeyPair.codec : Codec KeyPair :=
  KeyPair.record.codec (fun (_, publicKey, privateKey, _) => ⟨publicKey, privateKey⟩)
    fun p => ((), p.publicKey, p.privateKey, ())

def KdfParams.record : Record (UInt32 × Unit) where
  name := "KdfParams"
  fields := .cons { name := "rounds", codec := .uint32 } .nil

def KdfParams.codec : Codec KdfParams :=
  KdfParams.record.codec (fun (rounds, _) => ⟨rounds⟩) fun kdf => (kdf.rounds, ())

end ChatKeys
