/-
  ChatKeys.Crypto.KeyDerivation

  Two ways to turn input material into key bytes, both built on HMAC-SHA256:

    * `Pbkdf2.key` — 32 bytes from a password, a salt and an iteration count;
    * `Hkdf.expandShort` after `Hkdf.extract` — up to 32 bytes bound to a label,
      from material that is already strong.
-/
import ChatKeys.Crypto.Hmac

namespace ChatKeys

namespace Pbkdf2

/-- `n` further iterations: each hashes the last block and adds it to the sum. -/
def iterate (prf : Hmac.Prepared) : (n : Nat) → (last sum : Bytes) → Bytes
  | 0, _, sum => sum
  | n + 1, last, sum =>
    let next := prf.mac last
    iterate prf n next (Bytes.xor sum next)

/-- The first block of PBKDF2-HMAC-SHA256: 32 bytes. A count of zero stands for
    a single iteration. -/
def key (password salt : Bytes) (rounds : Nat) : Bytes :=
  let prf := Hmac.Prepared.ofKey password
  let first := prf.mac (salt ++ [0, 0, 0, 1])
  iterate prf (rounds - 1) first first

theorem length_iterate (prf : Hmac.Prepared) (n : Nat) (last sum : Bytes)
    (h : sum.length = Sha256.digestSize) :
    (iterate prf n last sum).length = Sha256.digestSize := by
  induction n generalizing last sum with
  | zero => exact h
  | succ n ih => exact ih _ _ (by simp [h])

@[simp] theorem length_key (password salt : Bytes) (rounds : Nat) :
    (key password salt rounds).length = Sha256.digestSize :=
  length_iterate _ _ _ _ (by simp)

end Pbkdf2

namespace Hkdf

/-- The pseudorandom key of some material, without a salt. -/
def extract (material : Bytes) : Bytes :=
  Hmac.mac (List.replicate Sha256.digestSize 0) material

/-- The first `size` bytes that a pseudorandom key yields for a label; at most
    one digest's worth. -/
def expandShort (key label : Bytes) (size : Nat) : Bytes :=
  (Hmac.mac key (label ++ [1])).take size

theorem length_expandShort (key label : Bytes) {size : Nat} (h : size ≤ Sha256.digestSize) :
    (expandShort key label size).length = size := by
  simp [expandShort, Nat.min_eq_left h]

end Hkdf

end ChatKeys
