/-
  ChatKeys.Proofs.Crypto.Passwords

  Which passwords are one and the same to the derivation of keys.

  HMAC brings its key to the size of a block first, and nothing else of a password
  gets any further.  So passwords with the same block key derive the same key from
  every salt (`Pbkdf2.key_congr`): a password and the same with zero bytes behind it
  (`blockKey_append_zeros`), as long as both fit into a block, and a longer one and
  its digest (`blockKey_hash`).  Up to the size of a block there are no others
  (`blockKey_eq_iff`), and keys of one length are never confused (`blockKey_inj`).

  Beyond that, passwords can only be confused by a collision of HMAC or of the
  derivation (`Hmac.Collision`, `Pbkdf2.Collision`).
-/
import ChatKeys.Crypto.KeyDerivation

namespace ChatKeys

namespace Hmac

variable {key key' : Bytes}

/-- Two keys that differ as block keys and give a message the same code. -/
structure Collision (key key' message : Bytes) : Prop where
  ne : blockKey key ≠ blockKey key'
  mac_eq : mac key message = mac key' message

/-! ## Block keys -/

theorem blockKey_of_le (h : key.length ≤ Sha256.blockSize) :
    blockKey key = key ++ List.replicate (Sha256.blockSize - key.length) 0 := by
  simp only [blockKey, if_pos h]

/-- Zero bytes behind a key that is shorter than a block do not count. -/
theorem blockKey_append_zeros {n : Nat} (h : key.length + n ≤ Sha256.blockSize) :
    blockKey (key ++ List.replicate n 0) = blockKey key := by
  have hlength : (key ++ List.replicate n (0 : UInt8)).length = key.length + n := by simp
  have hsplit : Sha256.blockSize - key.length = n + (Sha256.blockSize - (key.length + n)) := by omega
  rw [blockKey_of_le (by omega), blockKey_of_le (by omega), hlength, hsplit,
    ← List.replicate_append_replicate, List.append_assoc]

/-- A key that is longer than a block is the same as its digest. -/
theorem blockKey_hash (h : Sha256.blockSize < key.length) :
    blockKey (Sha256.hash key) = blockKey key := by
  have hshort : (Sha256.hash key).length ≤ Sha256.blockSize := by
    simp [Sha256.digestSize, Sha256.blockSize]
  rw [blockKey_of_le hshort]
  simp only [blockKey, if_neg (Nat.not_le_of_lt h)]

/-- Keys of one length that fit into a block are never the same. -/
theorem blockKey_inj (hlength : key.length = key'.length) (h : key.length ≤ Sha256.blockSize)
    (heq : blockKey key = blockKey key') : key = key' := by
  rw [blockKey_of_le h, blockKey_of_le (hlength ▸ h)] at heq
  exact (List.append_inj heq hlength).1

/-- Up to the size of a block, keys are the same exactly if they differ in zero bytes
    at the end only. -/
theorem blockKey_eq_iff (h : key.length ≤ Sha256.blockSize) (h' : key'.length ≤ Sha256.blockSize) :
    blockKey key = blockKey key' ↔
      ∃ n, key' = key ++ List.replicate n 0 ∨ key = key' ++ List.replicate n 0 := by
  -- Filled up to the length of the longer one, the shorter key has its length.
  have hfill : ∀ {k k' : Bytes}, k.length ≤ k'.length → k'.length ≤ Sha256.blockSize →
      blockKey k = blockKey k' → k' = k ++ List.replicate (k'.length - k.length) 0 := by
    intro k k' hle hk' heq
    have hlength : (k ++ List.replicate (k'.length - k.length) (0 : UInt8)).length = k'.length := by
      rw [List.length_append, List.length_replicate]
      omega
    rw [← blockKey_append_zeros (show k.length + (k'.length - k.length) ≤ _ by omega)] at heq
    exact (blockKey_inj hlength (by omega) heq).symm
  constructor
  · intro heq
    rcases Nat.le_total key.length key'.length with hle | hle
    · exact ⟨_, .inl (hfill hle h' heq)⟩
    · exact ⟨_, .inr (hfill hle h heq.symm)⟩
  · rintro ⟨n, rfl | rfl⟩
    · rw [blockKey_append_zeros (by simpa using h')]
    · rw [blockKey_append_zeros (by simpa using h)]

/-- A key of ones and a key of twos give a message different codes. -/
theorem mac_ne_example :
    mac (List.replicate 32 1) (List.replicate 24 2)
      ≠ mac (List.replicate 32 2) (List.replicate 24 2) := by
  decide +kernel

end Hmac

namespace Pbkdf2

theorem key_congr {password password' : Bytes}
    (h : Hmac.blockKey password = Hmac.blockKey password') (salt : Bytes) (rounds : Nat) :
    key password salt rounds = key password' salt rounds := by
  rw [key, key, Hmac.Prepared.ofKey, Hmac.Prepared.ofKey, h]

/-- Two passwords that differ as block keys and derive the same key from a salt. -/
structure Collision (password password' salt : Bytes) (rounds : Nat) : Prop where
  ne : Hmac.blockKey password ≠ Hmac.blockKey password'
  key_eq : key password salt rounds = key password' salt rounds

/-- Two passwords derive the same key if they are the same block key, or by a
    collision. -/
theorem key_eq_iff {password password' salt : Bytes} {rounds : Nat} :
    key password salt rounds = key password' salt rounds ↔
      Hmac.blockKey password = Hmac.blockKey password' ∨
        Collision password password' salt rounds := by
  constructor
  · intro h
    by_cases hblock : Hmac.blockKey password = Hmac.blockKey password'
    · exact .inl hblock
    · exact .inr ⟨hblock, h⟩
  · rintro (hblock | hcollision)
    · exact key_congr hblock salt rounds
    · exact hcollision.key_eq

end Pbkdf2

end ChatKeys
