/-
  ChatKeys.Key.Pair

  X25519 key pairs: the public half as bytes, the private half as a managed key
  that is wrapped and unwrapped like any other.
-/
import ChatKeys.Key.Basic
import ChatKeys.Crypto.X25519

namespace ChatKeys

/-- A key pair. -/
structure KeyPair where
  publicKey : Bytes
  privateKey : Key
deriving DecidableEq, Repr

namespace KeyPair

/-- The bytes of randomness that make a private key. -/
def privateKeySize : Nat := keySize

/-- The pair of a secret, which must have the size of a key. -/
def ofSecret (secret : Bytes) : Except KeyError KeyPair := do
  let privateKey ← Key.ofPlaintext .x25519 secret
  return { publicKey := X25519.publicKey secret, privateKey := privateKey }

/-- The vector that the private half is wrapped with. -/
def iv (p : KeyPair) : Bytes := p.privateKey.iv

def isEncrypted (p : KeyPair) : Bool := p.privateKey.isEncrypted

def withIv (p : KeyPair) (iv : Bytes) : KeyPair :=
  { p with privateKey := p.privateKey.withIv iv }

/-- The pair with its private half wrapped under a key. -/
def wrap (p : KeyPair) (outer : Key) : Except KeyError KeyPair := do
  return { p with privateKey := ← p.privateKey.wrap outer }

/-- The pair with its private half unwrapped with a key. -/
def unwrap (p : KeyPair) (outer : Key) : Except Error KeyPair := do
  return { p with privateKey := ← p.privateKey.unwrap outer }

end KeyPair

end ChatKeys
