/-
  ChatKeys.Reset

  Password resets.  A `ResetRequest` holds secret bytes; its confirmation, which
  is delivered to the account's owner, is the request's identifier, a hyphen and
  the hexadecimal authentication code of the identifier under those bytes.

    * `ResetRequest.issue` — a new request;
    * `ResetRequest.confirmation` / `ResetConfirmation.parse` — the code as text;
    * `ResetRequest.authorize` — from a valid code in time to a
      `ResetAuthorization`.
-/
import ChatKeys.Crypto.Hmac
import ChatKeys.Json.Record
import ChatKeys.Service.Dialogue

namespace ChatKeys

open Json

/-- A pending password reset. -/
structure ResetRequest where
  id : Snowflake
  accountId : Snowflake
  /-- The bytes that confirmations are made with. -/
  key : Bytes
  requestedAt : Time
  expiresAt : Time
deriving DecidableEq, Repr

/-- What a confirmation says: which request it answers, and its code. -/
structure ResetConfirmation where
  requestId : Snowflake
  mac : Bytes
deriving DecidableEq, Repr

/-- The permission to reset the password of one account. -/
structure ResetAuthorization where
  requestId : Snowflake
  accountId : Snowflake
deriving DecidableEq, Repr

namespace ResetConfirmation

/-- The characters before the first hyphen and those behind it. -/
def splitAtHyphen? : List Char → Option (List Char × List Char)
  | [] => none
  | c :: rest =>
    if c = '-' then some ([], rest)
    else (splitAtHyphen? rest).map fun (before, behind) => (c :: before, behind)

/-- Reads a confirmation: an identifier, a hyphen and pairs of hexadecimal
    digits. -/
def parse (confirmation : String) : Except Error ResetConfirmation :=
  let parsed : Option ResetConfirmation := do
    let (id, code) ← splitAtHyphen? confirmation.toList
    let mac ← Hex.decodeChars? code
    let requestId ← Snowflake.parse? (String.ofList id)
    return { requestId := requestId, mac := mac }
  match parsed with
  | some c => .ok c
  | none => .error .invalidConfirmationCode

end ResetConfirmation

namespace ResetRequest

def secretSize : Nat := 64

def issue (accountId : Snowflake) (lifetime : Duration) : Dialogue ResetRequest := do
  let key ← Dialogue.nonce secretSize "reset key generation"
  let requestedAt ← Dialogue.now
  let id ← Dialogue.freshSnowflake
  match requestedAt.add? lifetime with
  | none => Dialogue.fail .endOfTime
  | some expiresAt =>
    Dialogue.note (.resetRequested id accountId)
    return { id := id, accountId := accountId, key := key,
             requestedAt := requestedAt, expiresAt := expiresAt }

def mac (r : ResetRequest) : Bytes :=
  Hmac.mac r.key (Bytes.ofString r.id.text)

/-- Whether a code is the request's own, in full length. -/
def checkMac (r : ResetRequest) (code : Bytes) : Bool :=
  r.mac = code

def confirmation (r : ResetRequest) : String :=
  r.id.text ++ "-" ++ Hex.encode r.mac

def isExpired (r : ResetRequest) (now : Time) : Bool :=
  r.expiresAt ≤ now

/-- Checks a confirmation. All refusals look the same to the caller. -/
def authorize (r : ResetRequest) (c : ResetConfirmation) (now : Time) :
    Logged ResetAuthorization :=
  if c.requestId ≠ r.id ∨ r.checkMac c.mac = false then
    .refuse (.confirmationRejected r.id) .accessDenied
  else if r.isExpired now then
    .refuse (.requestExpired r.id) .accessDenied
  else
    return { requestId := r.id, accountId := r.accountId }

def record : Record (Snowflake × Snowflake × Bytes × Time × Time × Unit) where
  name := "PasswordResetRequest"
  fields :=
    .cons { name := "id", codec := .snowflake } <|
    .cons { name := "account_id", codec := .snowflake } <|
    .cons { name := "key", codec := .bytes } <|
    .cons { name := "requested_at", codec := .time } <|
    .cons { name := "expires_at", codec := .time } .nil

def codec : Codec ResetRequest :=
  record.codec
    (fun (id, accountId, key, requestedAt, expiresAt, _) =>
      ⟨id, accountId, key, requestedAt, expiresAt⟩)
    fun r => (r.id, r.accountId, r.key, r.requestedAt, r.expiresAt, ())

/-- A one-line summary for diagnosis, without the secret bytes. -/
def summary (r : ResetRequest) : String :=
  let snowflake (s : Snowflake) := s!"Snowflake({s.value.toNat})"
  let expiry := s!"SystemTime \x7b tv_sec: {r.expiresAt.seconds}, tv_nsec: {r.expiresAt.nanos} \x7d"
  "PasswordResetRequest \x7b id: " ++ snowflake r.id ++ ", account_id: " ++ snowflake r.accountId
    ++ ", expires_at: " ++ expiry ++ ", .. \x7d"

end ResetRequest

end ChatKeys
