/-
  ChatKeys.Account

  The key hierarchy of an account.

  One key, the key-encrypting key, wraps the account's key pair.  It is kept
  twice: wrapped by the service (`systemKey`) and wrapped under the client key
  that is derived from the password (`userKey`).  The password itself is not
  kept; `mac`, the code of the nonce under the client key, tells the right client
  key from others.

    * `Account.create`, `Account.resetPassword`, `Account.grant`,
      `Account.appointStaff` — through the service;
    * `Account.unlock`, `Account.replaceClientKey`, `Account.redeemGrant`,
      `Account.staffCredential` — with the client key.

  Every operation that changes an account gives a new value.
-/
import ChatKeys.Capability
import ChatKeys.Config
import ChatKeys.Reset

namespace ChatKeys

open Json

/-- The stored key hierarchy of an account. -/
structure Account where
  /-- Also the salt that the client key is derived with. -/
  nonce : Bytes
  /-- Proves the current client key. -/
  mac : Bytes
  kdf : KdfParams
  /-- The key-encrypting key, wrapped by the service. -/
  systemKey : Key
  /-- The key-encrypting key, wrapped under the client key. -/
  userKey : Key
  keyPair : KeyPair
  /-- The service's credential, granted to accounts of staff. -/
  staffCapability : Option Capability
deriving DecidableEq, Repr

namespace Account

def nonceSize : Nat := ivSize

/-- The scope of the context that system keys are bound to. -/
def contextScope : String := "nonce"

/-- The hierarchy of a new account, and the client key of its password. -/
def create (password : String) (kdf : KdfParams) : Dialogue (Account × Key) := do
  -- One draw serves for the nonce and for the secret of the key pair.
  let random ← Dialogue.nonce (nonceSize + KeyPair.privateKeySize)
  let (nonce, secret) ← Dialogue.cut nonceSize random
  let iv := ivOfNonce nonce
  let systemKey ← Dialogue.generate contextScope (Base64.encode nonce)
  let kek ← Dialogue.unwrap systemKey
  let keyPair ← ((← KeyPair.ofSecret secret).withIv iv).wrap kek
  let clientKey := Key.ofPasscode (Bytes.ofString password) nonce kdf
  let userKey ← (kek.withIv iv).wrap clientKey
  let mac ← clientKey.mac nonce
  Dialogue.note (.accountCreated kdf.rounds)
  let account : Account :=
    { nonce := nonce, mac := mac, kdf := kdf, systemKey := systemKey, userKey := userKey,
      keyPair := keyPair, staffCapability := none }
  return (account, clientKey)

/-! ## With the client key -/

def clientKey (a : Account) (password : String) : Key :=
  Key.ofPasscode (Bytes.ofString password) a.nonce a.kdf

/-- The key-encrypting key, if the client key is the current one. -/
def openKek (a : Account) (clientKey : Key) : Logged Key := do
  if ← clientKey.checkMac a.nonce a.mac then a.userKey.unwrap clientKey
  else .refuse .accountUnlockRefused .accessDenied

/-- The key pair in the clear. -/
def unlock (a : Account) (clientKey : Key) : Logged KeyPair := do
  a.keyPair.unwrap (← a.openKek clientKey)

/-- The account with its key-encrypting key under another client key. -/
def withClientKey (a : Account) (kek clientKey : Key) : Except KeyError Account := do
  let userKey ← (kek.withIv (ivOfNonce a.nonce)).wrap clientKey
  let mac ← clientKey.mac a.nonce
  return { a with userKey := userKey, mac := mac }

/-- The account with a new client key in place of the current one. -/
def replaceClientKey (a : Account) (old new : Key) : Logged Account := do
  a.withClientKey (← a.openKek old) new

/-- Opens a key that was granted to this account. -/
def redeemGrant (a : Account) (clientKey : Key) (c : Capability) : Logged Key := do
  c.redeem (← a.openKek clientKey)

def isStaff (a : Account) : Bool := a.staffCapability.isSome

def dismissStaff (a : Account) : Account :=
  { a with staffCapability := none }

/-- The service's credential, if the account is one of staff. -/
def staffCredential (a : Account) (clientKey : Key) : Logged Key :=
  match a.staffCapability with
  | none => .ofExcept (.error .accessDenied)
  | some c => a.redeemGrant clientKey c

/-! ## Through the service -/

/-- The account with a new password, and its client key. The authorization must
    be for this account. -/
def resetPassword (a : Account) (id : Snowflake) (authorization : ResetAuthorization)
    (password : String) : Dialogue (Account × Key) := do
  if authorization.accountId ≠ id then
    Dialogue.note (.authorizationMismatch id authorization.accountId)
    Dialogue.refuse .accessDenied
  else
    let kek ← Dialogue.unwrap a.systemKey
    let clientKey := a.clientKey password
    let account ← a.withClientKey kek clientKey
    Dialogue.note (.passwordReset id)
    return (account, clientKey)

/-- Seals a key to this account. -/
def grant (a : Account) (k : Key) : Dialogue Capability := do
  let kek ← Dialogue.unwrap a.systemKey
  let iv ← Dialogue.nonce ivSize
  Capability.issue kek iv k

/-- The account with the service's credential granted to it. -/
def appointStaff (a : Account) (credential : Key) : Dialogue Account := do
  let c ← a.grant credential
  Dialogue.note .staffAppointed
  return { a with staffCapability := some c }

/-! ## Stored form -/

def record :
    Record (Bytes × Bytes × KdfParams × Key × Key × KeyPair × Option Capability × Unit) where
  name := "AccountSecurity"
  fields :=
    .cons { name := "nonce", codec := .bytes } <|
    .cons { name := "mac", codec := .bytes } <|
    .cons { name := "kdf", codec := KdfParams.codec, absent := some .standard } <|
    .cons { name := "system_key", codec := Key.codec } <|
    .cons { name := "user_key", codec := Key.codec } <|
    .cons { name := "key_pair", codec := KeyPair.codec } <|
    .cons (.optional "staff_capability" Capability.codec) .nil

def codec : Codec Account :=
  record.codec
    (fun (nonce, mac, kdf, systemKey, userKey, keyPair, staffCapability, _) =>
      ⟨nonce, mac, kdf, systemKey, userKey, keyPair, staffCapability⟩)
    fun a => (a.nonce, a.mac, a.kdf, a.systemKey, a.userKey, a.keyPair, a.staffCapability, ())

end Account

end ChatKeys
