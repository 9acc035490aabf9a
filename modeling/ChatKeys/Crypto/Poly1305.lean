/-
  ChatKeys.Crypto.Poly1305

  The Poly1305 one-time authenticator, computed in natural numbers modulo
  2 ^ 130 - 5.
-/
import ChatKeys.Bytes

namespace ChatKeys.Poly1305

def modulus : Nat := 2 ^ 130 - 5

/-- The bits of the multiplier that a key may set. -/
def multiplierMask : Nat := 0x0ffffffc0ffffffc0ffffffc0fffffff

/-- The number of a chunk: its little-endian bytes with a one behind them. -/
def chunkValue (chunk : Bytes) : Nat :=
  Bytes.toNat (chunk ++ [1])

/-- The sixteen-byte tag of a message under a 32-byte key that is used once. -/
def tag (key message : Bytes) : Bytes :=
  let r := Bytes.toNat (key.take 16) &&& multiplierMask
  let s := Bytes.toNat (key.drop 16)
  let acc := (Bytes.chunks 16 message).foldl (fun acc chunk => (acc + chunkValue chunk) * r % modulus) 0
  Bytes.ofNat 16 (acc + s)

@[simp] theorem length_tag (key message : Bytes) : (tag key message).length = 16 := by
  simp [tag]

end ChatKeys.Poly1305
