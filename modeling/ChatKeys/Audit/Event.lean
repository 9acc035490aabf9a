/-
  ChatKeys.Audit.Event

  What the operations report besides their results: one constructor for each
  thing that can be reported, and how each is shown (`level`, `message`,
  `fields`).  No field holds a secret.
-/
import ChatKeys.Error

namespace ChatKeys

/-- How much an event matters. -/
inductive EventLevel where
  | debug
  | info
  | warn
deriving DecidableEq, Repr

/-- Something that is reported. -/
inductive Event where
  | serviceCallFailed (step : String) (cause : KmsError)
  | accountCreated (rounds : UInt32)
  | accountUnlockRefused
  | authorizationMismatch (account authorized : Snowflake)
  | passwordReset (account : Snowflake)
  | staffAppointed
  | roomCreated (room : String)
  | roomUnlockRefused (room : String)
  | managerAppointed (room : String)
  | managerKeyRenewed (room : String)
  | messageKeyRenewed (room keyId : String)
  | messageKeyUnknown (message : Snowflake) (keyId : String)
  | resetRequested (request account : Snowflake)
  | confirmationRejected (request : Snowflake)
  | requestExpired (request : Snowflake)
deriving DecidableEq, Repr

namespace Event

def level : Event → EventLevel
  | serviceCallFailed .. => .warn
  | passwordReset .. | staffAppointed | managerKeyRenewed .. | messageKeyRenewed ..
  | resetRequested .. => .info
  | _ => .debug

def message : Event → String
  | serviceCallFailed .. => "kms call failed"
  | accountCreated .. => "account key hierarchy created"
  | accountUnlockRefused => "account unlock refused: mac mismatch"
  | authorizationMismatch .. => "reset authorization is for another account"
  | passwordReset .. => "account password reset"
  | staffAppointed => "staff capability granted"
  | roomCreated .. => "room key hierarchy created"
  | roomUnlockRefused .. => "room unlock refused: mac mismatch"
  | managerAppointed .. => "manager capability issued"
  | managerKeyRenewed .. => "room manager key rotated"
  | messageKeyRenewed .. => "room message key rotated"
  | messageKeyUnknown .. => "no key for encrypted message"
  | resetRequested .. => "password reset requested"
  | confirmationRejected .. => "reset confirmation rejected"
  | requestExpired .. => "reset request expired"

def fields : Event → List (String × String)
  | serviceCallFailed step cause => [("step", step), ("error", cause.message)]
  | accountCreated rounds => [("kdf_rounds", toString rounds.toNat)]
  | accountUnlockRefused => []
  | authorizationMismatch account authorized =>
    [("account_id", account.text), ("authorized", authorized.text)]
  | passwordReset account => [("account_id", account.text)]
  | staffAppointed => []
  | roomCreated room => [("room", room)]
  | roomUnlockRefused room => [("room", room)]
  | managerAppointed room => [("room", room)]
  | managerKeyRenewed room => [("room", room)]
  | messageKeyRenewed room keyId => [("room", room), ("key_id", keyId)]
  | messageKeyUnknown message keyId => [("message_id", message.text), ("key_id", keyId)]
  | resetRequested request account =>
    [("request_id", request.text), ("account_id", account.text)]
  | confirmationRejected request => [("request_id", request.text)]
  | requestExpired request => [("request_id", request.text)]

end Event

end ChatKeys
