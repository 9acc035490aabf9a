/-
  ChatKeys.Json.Error

  Why a JSON text was refused, and why a value has none.

  Every fault of grammar is one cause, `malformed`; the other causes say what
  was wrong with a text whose grammar was in order as far as it was read.  A value
  of the wrong kind or out of range is shown in the full wording, `fullMessage`;
  the brief one, `message`, names only what was expected in its place.
-/
import ChatKeys.Snowflake

namespace ChatKeys.Json

/-- A list of alternatives in words, each between back quotes. -/
def alternatives : List String → String
  | [] => "nothing"
  | [a] => "`" ++ a ++ "`"
  | [a, b] => "`" ++ a ++ "` or `" ++ b ++ "`"
  | names => "one of " ++ ", ".intercalate (names.map fun a => "`" ++ a ++ "`")

/-- What stood where something else was expected. -/
inductive Found where
  | null
  | boolean (b : Bool)
  | integer (n : Int)
  /-- A real; its digits are not kept. -/
  | real
  | string (text : String)
  | array
  | object
deriving DecidableEq, Repr

/-- A value in words. Strings are quoted in full. -/
def Found.description : Found → String
  | null => "null"
  | boolean b => "boolean `" ++ (if b then "true" else "false") ++ "`"
  | integer n => "integer `" ++ toString n ++ "`"
  | real => "floating point"
  | string text => "string " ++ Text.quoted text
  | array => "sequence"
  | object => "map"

/-- Why a text was refused. -/
inductive Error where
  /-- A fault of grammar, or a number beyond every double. -/
  | malformed
  /-- A value of the wrong kind. -/
  | invalidType (found : Found) (expected : String)
  /-- An integer outside the type. -/
  | invalidValue (found : Found) (expected : String)
  /-- A record given as an array that is too short. -/
  | invalidLength (length : Nat) (expected : String)
  /-- A name that no variant has. -/
  | unknownVariant (name : String) (known : List String)
  /-- A member that a closed record does not have. -/
  | unknownField (name : String) (known : List String)
  /-- A member that must be there is not. -/
  | missingField (name : String)
  /-- A member is there twice. -/
  | duplicateField (name : String)
  /-- A byte string whose text is no base64. -/
  | invalidBase64
  /-- An identifier whose text is none. -/
  | invalidSnowflake (cause : Snowflake.ParseError)
  /-- The nanoseconds of a time carry beyond 2 ^ 64 seconds. -/
  | timeOffsetOverflow
  /-- A time beyond the last one. -/
  | timeOverflow
deriving DecidableEq, Repr

/-- The brief wording. -/
def Error.message : Error → String
  | malformed => "malformed JSON"
  | invalidType _ expected => "invalid type, expected " ++ expected
  | invalidValue _ expected => "invalid value, expected " ++ expected
  | invalidLength length expected => s!"invalid length {length}, expected " ++ expected
  | unknownVariant name known =>
    "unknown variant `" ++ name ++ "`, expected " ++ alternatives known
  | unknownField name known => "unknown field `" ++ name ++ "`, expected " ++ alternatives known
  | missingField name => "missing field `" ++ name ++ "`"
  | duplicateField name => "duplicate field `" ++ name ++ "`"
  | invalidBase64 => "invalid base64"
  | invalidSnowflake cause => cause.message
  | timeOffsetOverflow => "overflow deserializing SystemTime epoch offset"
  | timeOverflow => "overflow deserializing SystemTime"

/-- The full wording, up to the place in the document, which is not kept. -/
def Error.fullMessage : Error → String
  | invalidType found expected =>
    "invalid type: " ++ found.description ++ ", expected " ++ expected
  | invalidValue found expected =>
    "invalid value: " ++ found.description ++ ", expected " ++ expected
  | cause => cause.message

/-- Why a value has no text. -/
inductive WriteError where
  /-- The value holds a key in the clear. -/
  | plainKey
  /-- The value holds a time before 1970. -/
  | timeBeforeEpoch
deriving DecidableEq, Repr

def WriteError.message : WriteError → String
  | plainKey => "refusing to serialize a decrypted key"
  | timeBeforeEpoch => "SystemTime must be later than UNIX_EPOCH"

end ChatKeys.Json
