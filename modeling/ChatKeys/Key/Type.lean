/-
  ChatKeys.Key.Type

  The two kinds of key material, and the context that a key may be bound to.
-/
import ChatKeys.Bytes

namespace ChatKeys

/-- The bytes of every key. -/
def keySize : Nat := 32

/-- The bytes of the initialisation vector that a key is wrapped with. -/
def ivSize : Nat := 24

/-- Kinds of key material. -/
inductive KeyType where
  /-- A key of XChaCha20-Poly1305, which can wrap other keys. -/
  | xchacha20poly1305
  /-- The secret of an X25519 key pair. -/
  | x25519
deriving DecidableEq, Repr

namespace KeyType

def size : KeyType → Nat
  | xchacha20poly1305 => keySize
  | x25519 => keySize

def isSymmetric : KeyType → Bool
  | xchacha20poly1305 => true
  | x25519 => false

/-- The stable name, which is also bound into what such a key is wrapped to. -/
def label : KeyType → String
  | xchacha20poly1305 => "xchacha20poly1305"
  | x25519 => "x25519"

/-- The name in summaries. -/
def displayName : KeyType → String
  | xchacha20poly1305 => "XChaCha20Poly1305"
  | x25519 => "X25519"

/-- All kinds by their stable names. -/
def variants : List (String × KeyType) :=
  [(label xchacha20poly1305, xchacha20poly1305), (label x25519, x25519)]

end KeyType

/-- What a key is bound to, for instance the room `lobby`. -/
structure KeyContext where
  scope : String
  value : String
deriving DecidableEq, Repr

end ChatKeys
