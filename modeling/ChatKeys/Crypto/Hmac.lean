/-
  ChatKeys.Crypto.Hmac

  HMAC-SHA256.  A key is prepared once (`Prepared.ofKey`: the two chaining
  states after the inner and the outer pad) and can then authenticate any number
  of messages.  `blockKey` is the rule by which keys of any length are brought
  to the block size; keys with the same block key are the same HMAC key.
-/
import ChatKeys.Crypto.Sha256

namespace ChatKeys.Hmac

/-- The key as one block: a key longer than a block is hashed first, and zeros
    fill up what is missing. -/
def blockKey (key : Bytes) : Bytes :=
  let short := if key.length ≤ Sha256.blockSize then key else Sha256.hash key
  short ++ List.replicate (Sha256.blockSize - short.length) 0

/-- A block key with every byte combined with the same pad byte. -/
def padded (block : Bytes) (pad : UInt8) : Bytes :=
  block.map (· ^^^ pad)

/-- A key that is ready for use: the chaining states behind both pads. -/
structure Prepared where
  inner : Sha256.State
  outer : Sha256.State
deriving DecidableEq, Repr

def Prepared.ofKey (key : Bytes) : Prepared :=
  let block := blockKey key
  { inner := Sha256.State.initial.compress (padded block 0x36)
    outer := Sha256.State.initial.compress (padded block 0x5c) }

/-- The authentication code of a message under a prepared key. -/
def Prepared.mac (key : Prepared) (message : Bytes) : Bytes :=
  key.outer.finish Sha256.blockSize (key.inner.finish Sha256.blockSize message)

def mac (key message : Bytes) : Bytes :=
  (Prepared.ofKey key).mac message

@[simp] theorem Prepared.length_mac (key : Prepared) (message : Bytes) :
    (key.mac message).length = Sha256.digestSize := by
  simp [Prepared.mac]

@[simp] theorem length_mac (key message : Bytes) :
    (mac key message).length = Sha256.digestSize := by
  simp [mac]

/-- A block key fills exactly one block. -/
theorem length_blockKey (key : Bytes) : (blockKey key).length = Sha256.blockSize := by
  have h : ∀ k : Bytes, k.length ≤ Sha256.blockSize →
      (k ++ List.replicate (Sha256.blockSize - k.length) 0).length = Sha256.blockSize := by
    intro k hk
    simp only [List.length_append, List.length_replicate]
    omega
  unfold blockKey
  split
  · next hk => exact h key hk
  · exact h _ (by simp [Sha256.digestSize, Sha256.blockSize])

end ChatKeys.Hmac
