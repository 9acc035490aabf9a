/-
  ChatKeys.Key.Derived

  Keys that are derived from a password or passcode, and codes that prove
  knowledge of a key.

    * `Key.ofPasscode` — PBKDF2-HMAC-SHA256 over a passcode and a salt;
    * `Key.mac`, `Key.checkMac` — HMAC-SHA256 under a key in the clear.
-/
import ChatKeys.Key.Basic
import ChatKeys.Crypto.KeyDerivation

namespace ChatKeys

/-- How a key is derived from a password. -/
structure KdfParams where
  /-- The number of iterations; zero counts as one. -/
  rounds : UInt32
deriving DecidableEq, Repr

/-- The parameters of a hierarchy that names none. -/
def KdfParams.standard : KdfParams := ⟨100000⟩

namespace Key

/-- The secret derived from a passcode and a salt. -/
def passcodeSecret (passcode salt : Bytes) (kdf : KdfParams) : KeyBytes where
  bytes := Pbkdf2.key passcode salt kdf.rounds.toNat
  length_bytes := Pbkdf2.length_key _ _ _

/-- The symmetric key of a passcode and a salt. -/
def ofPasscode (passcode salt : Bytes) (kdf : KdfParams) : Key :=
  ofSecret .xchacha20poly1305 (passcodeSecret passcode salt kdf)

/-- The authentication code of a message under a key of any type. -/
def mac (k : Key) (message : Bytes) : Except KeyError Bytes := do
  return Hmac.mac (← k.secret).bytes message

/-- Whether a code is the message's own, in full length. -/
def checkMac (k : Key) (message code : Bytes) : Except KeyError Bool := do
  return (← k.mac message) = code

end Key

end ChatKeys
