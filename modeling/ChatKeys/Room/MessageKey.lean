/-
  ChatKeys.Room.MessageKey

  The keys that a room's messages are encrypted under.  Each has an identifier,
  by which messages name it, and is kept wrapped by the service; it can be
  granted to an account or to a passcode.
-/
import ChatKeys.Account

namespace ChatKeys

open Json

/-- The bytes of the nonces of rooms and message keys. -/
def roomNonceSize : Nat := ivSize

/-- The scope of the context that all keys of rooms are bound to. -/
def roomScope : String := "room"

/-- The name of a message key. -/
structure KeyId where
  text : String
deriving DecidableEq, Repr

def KeyId.codec : Codec KeyId :=
  Codec.string.refine (fun text => .ok ⟨text⟩) KeyId.text

/-- A message key. -/
structure MessageKey where
  id : KeyId
  issuedAt : Time
  /-- The salt of grants to a passcode. -/
  nonce : Bytes
  /-- The key, wrapped by the service. -/
  key : Key
deriving DecidableEq, Repr

namespace MessageKey

def issue (room : String) : Dialogue MessageKey := do
  let nonce ← Dialogue.nonce roomNonceSize
  let key ← Dialogue.generate roomScope room
  let id ← Dialogue.freshSnowflake
  let issuedAt ← Dialogue.now
  return { id := ⟨id.text⟩, issuedAt := issuedAt, nonce := nonce, key := key }

def unlock (m : MessageKey) : Dialogue Key :=
  Dialogue.unwrap m.key

def grantTo (m : MessageKey) (a : Account) : Dialogue Capability := do
  a.grant (← m.unlock)

def grantToPasscode (m : MessageKey) (passcode : String) (kdf : KdfParams) :
    Dialogue Capability := do
  let key ← m.unlock
  let iv ← Dialogue.nonce ivSize
  Capability.issueForPasscode (Bytes.ofString passcode) m.nonce kdf iv key

/-- Opens a grant to a passcode. -/
def redeemPasscodeGrant (m : MessageKey) (c : Capability) (passcode : String) (kdf : KdfParams) :
    Except Error Key :=
  c.redeemWithPasscode (Bytes.ofString passcode) m.nonce kdf

def record : Record (KeyId × Time × Bytes × Key × Unit) where
  name := "RoomMessageKey"
  fields :=
    .cons { name := "key_id", codec := KeyId.codec } <|
    .cons { name := "timestamp", codec := .time } <|
    .cons { name := "nonce", codec := .bytes } <|
    .cons { name := "key", codec := Key.codec } .nil

def codec : Codec MessageKey :=
  record.codec (fun (id, issuedAt, nonce, key, _) => ⟨id, issuedAt, nonce, key⟩)
    fun m => (m.id, m.issuedAt, m.nonce, m.key, ())

end MessageKey

end ChatKeys
