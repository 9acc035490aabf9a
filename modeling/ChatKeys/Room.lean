/-
  ChatKeys.Room

  The key hierarchy of a room.

  A room has no password.  Its manager key wraps the room's key pair and is kept
  wrapped by the service; managers hold it as a capability granted to their
  account, staff reach it through the service.  `mac`, the code of the key pair's
  vector under the manager key, tells the current manager key from others.  The
  room's current message key is kept beside it.
-/
import ChatKeys.Room.MessageKey

namespace ChatKeys

open Json

/-- The stored key hierarchy of a room. -/
structure Room where
  name : String
  nonce : Bytes
  /-- Proves the current manager key. -/
  mac : Bytes
  /-- The manager key, wrapped by the service. -/
  keyEncryptingKey : Key
  keyPair : KeyPair
  messageKey : Option MessageKey
deriving DecidableEq, Repr

namespace Room

/-- The hierarchy of a new room, without a message key. -/
def create (name : String) : Dialogue Room := do
  -- One draw serves for the vector, the secret of the key pair and the nonce.
  let random ← Dialogue.nonce (ivSize + KeyPair.privateKeySize + roomNonceSize)
  let (iv, behind) ← Dialogue.cut ivSize random
  let (secret, nonce) ← Dialogue.cut KeyPair.privateKeySize behind
  let keyEncryptingKey ← Dialogue.generate roomScope name
  let managerKey ← Dialogue.unwrap keyEncryptingKey
  let keyPair ← ((← KeyPair.ofSecret secret).withIv iv).wrap managerKey
  let mac ← managerKey.mac keyPair.iv
  Dialogue.note (.roomCreated name)
  return { name := name, nonce := nonce, mac := mac, keyEncryptingKey := keyEncryptingKey,
           keyPair := keyPair, messageKey := none }

/-- The key pair in the clear, if the manager key is the current one. -/
def unlock (r : Room) (managerKey : Key) : Logged KeyPair := do
  if ← managerKey.checkMac r.keyPair.iv r.mac then r.keyPair.unwrap managerKey
  else .refuse (.roomUnlockRefused r.name) .accessDenied

/-- The manager key in the clear, through the service. -/
def managerKey (r : Room) : Dialogue Key :=
  Dialogue.unwrap r.keyEncryptingKey

/-- The key pair in the clear, through the service. -/
def unlockThroughService (r : Room) : Dialogue KeyPair := do
  r.unlock (← r.managerKey)

def appointManager (r : Room) (a : Account) : Dialogue Capability := do
  let managerKey ← r.managerKey
  let c ← a.grant managerKey
  Dialogue.note (.managerAppointed r.name)
  return c

/-- The key pair in the clear, with a manager key granted to an account. -/
def unlockByGrant (r : Room) (a : Account) (clientKey : Key) (c : Capability) :
    Logged KeyPair := do
  r.unlock (← a.redeemGrant clientKey c)

/-- The room with a fresh manager key. The key pair stays the same and is
    wrapped anew with a fresh vector. -/
def renewManagerKey (r : Room) : Dialogue Room := do
  let keyPair ← r.unlockThroughService
  let iv ← Dialogue.nonce ivSize
  let keyEncryptingKey ← Dialogue.generate roomScope r.name
  let managerKey ← Dialogue.unwrap keyEncryptingKey
  let keyPair ← (keyPair.withIv iv).wrap managerKey
  let mac ← managerKey.mac keyPair.iv
  Dialogue.note (.managerKeyRenewed r.name)
  return { r with mac := mac, keyEncryptingKey := keyEncryptingKey, keyPair := keyPair }

/-- The room with a fresh message key in place of the current one. -/
def renewMessageKey (r : Room) : Dialogue Room := do
  let messageKey ← MessageKey.issue r.name
  Dialogue.note (.messageKeyRenewed r.name messageKey.id.text)
  return { r with messageKey := some messageKey }

def record : Record (String × Bytes × Bytes × Key × KeyPair × Option MessageKey × Unit) where
  name := "RoomSecurity"
  fields :=
    .cons { name := "room_name", codec := .string } <|
    .cons { name := "nonce", codec := .bytes } <|
    .cons { name := "mac", codec := .bytes } <|
    .cons { name := "key_encrypting_key", codec := Key.codec } <|
    .cons { name := "key_pair", codec := KeyPair.codec } <|
    .cons (.optional "message_key" MessageKey.codec) .nil

def codec : Codec Room :=
  record.codec
    (fun (name, nonce, mac, keyEncryptingKey, keyPair, messageKey, _) =>
      ⟨name, nonce, mac, keyEncryptingKey, keyPair, messageKey⟩)
    fun r => (r.name, r.nonce, r.mac, r.keyEncryptingKey, r.keyPair, r.messageKey, ())

end Room

end ChatKeys
