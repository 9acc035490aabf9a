/-
  ChatKeys.Error

  Everything that can go wrong, by cause, and the wording of each cause.

    * `KeyError` — a key is in the wrong state or of the wrong shape;
    * `KmsError` — the key management service declines or fails;
    * `Corruption` — an envelope is malformed;
    * `Error` — what an operation answers its caller.

  Where a stored record is refused, the full wording (`fullMessage`) shows what was
  found in it; the brief one (`message`) leaves values of the wrong kind out.
-/
import ChatKeys.Key.Type
import ChatKeys.Json.Error

namespace ChatKeys

/-- Ways in which a key is of no use for an operation. -/
inductive KeyError where
  | alreadyEncrypted
  | alreadyDecrypted
  | mustBeDecrypted
  | incompatibleType (expected actual : KeyType)
  | invalidLength (expected actual : Nat)
  | invalidIv (expected actual : Nat)
deriving DecidableEq, Repr

def KeyError.message : KeyError → String
  | alreadyEncrypted => "key is already encrypted"
  | alreadyDecrypted => "key is already decrypted"
  | mustBeDecrypted => "key must be decrypted"
  | incompatibleType expected actual =>
    "incompatible key type: expected " ++ expected.label ++ ", got " ++ actual.label
  | invalidLength expected actual => s!"invalid key length: expected {expected}, got {actual}"
  | invalidIv expected actual => s!"invalid iv length: expected {expected}, got {actual}"

/-- Answers of the key management service other than success. -/
inductive KmsError where
  /-- The master key does not unwrap the key. -/
  | accessDenied
  /-- The service could not be reached. -/
  | unavailable (reason : String)
  /-- The request makes no sense. -/
  | invalidRequest (reason : String)
deriving DecidableEq, Repr

def KmsError.message : KmsError → String
  | accessDenied => "kms access denied"
  | unavailable reason => "kms unavailable: " ++ reason
  | invalidRequest reason => "invalid kms request: " ++ reason

/-- Ways in which an envelope is malformed. -/
inductive Corruption where
  /-- A detached tag of the wrong length. -/
  | digestLength (actual : Nat)
  /-- A capability's identifier is no base64. -/
  | capabilityId
  /-- A capability's identifier is base64 of the wrong length. -/
  | capabilityIv (actual : Nat)
  /-- A capability's opened payload is no record of a key. -/
  | capabilityPayload (cause : Json.Error)
  /-- Message content is not two parts with a slash between them. -/
  | contentShape
  /-- The first part of message content is no base64. -/
  | digestText
  /-- The second part of message content is no base64. -/
  | ciphertextText
  /-- Opened message content is not UTF-8. -/
  | contentText
  /-- Opened message content is no sealed record. -/
  | sealedRecord (cause : Json.Error)
deriving DecidableEq, Repr

def Corruption.message : Corruption → String
  | digestLength actual => s!"digest is {actual} bytes, expected 16"
  | capabilityId => "capability id is not base64"
  | capabilityIv actual => s!"capability iv is {actual} bytes, expected 24"
  | capabilityPayload cause => "capability payload: " ++ cause.message
  | contentShape => "content is not digest/ciphertext"
  | digestText => "digest is not base64"
  | ciphertextText => "ciphertext is not base64"
  | contentText => "content is not utf-8"
  | sealedRecord cause => "sealed record: " ++ cause.message

/-- The full wording: a refused record is described with all that its refusal says. -/
def Corruption.fullMessage : Corruption → String
  | capabilityPayload cause => "capability payload: " ++ cause.fullMessage
  | sealedRecord cause => "sealed record: " ++ cause.fullMessage
  | cause => cause.message

/-- What an operation answers when it does not succeed. -/
inductive Error where
  | keyState (cause : KeyError)
  /-- A password, code, grant or service check failed; deliberately without
      detail. -/
  | accessDenied
  | invalidConfirmationCode
  | corrupted (cause : Corruption)
  /-- The key management service failed in a named step. -/
  | serviceFailure (step : String) (cause : KmsError)
deriving DecidableEq, Repr

namespace Error

def message : Error → String
  | keyState cause => "key state error: " ++ cause.message
  | accessDenied => "access denied"
  | invalidConfirmationCode => "invalid confirmation code"
  | corrupted cause => "message corrupted: " ++ cause.message
  | serviceFailure step cause => step ++ ": " ++ cause.message

/-- The full wording, as it is shown. -/
def fullMessage : Error → String
  | corrupted cause => "message corrupted: " ++ cause.fullMessage
  | e => e.message

/-- The error for a failed service call: a refusal to unwrap is an ordinary
    denial, everything else a failure of the step. -/
def ofKms (step : String) : KmsError → Error
  | .accessDenied => accessDenied
  | cause => serviceFailure step cause

/-- Whether the same operation may succeed later: only an unreachable service
    comes back. -/
def isTransient : Error → Bool
  | serviceFailure _ (.unavailable _) => true
  | _ => false

end Error

/-- Key errors count as errors of the operation that uses the key. -/
instance : MonadLift (Except KeyError) (Except Error) where
  monadLift := Except.mapError Error.keyState

end ChatKeys
