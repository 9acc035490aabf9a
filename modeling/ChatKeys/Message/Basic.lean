/-
  ChatKeys.Message.Basic

  Chat messages as they are stored and sent.

    * `EncryptionKeyId` — the key that content is encrypted under, with the
      format of the content; its text form has the mark `v1/` in front for the
      sealed-record format and nothing for the older one;
    * `Session` — a participant as shown on a message;
    * `Message` — the message itself.
-/
import ChatKeys.Room.MessageKey

namespace ChatKeys

open Json

/-- A message key by name, with the format of what is encrypted under it. -/
inductive EncryptionKeyId where
  /-- The content alone, as bytes. -/
  | unversioned (id : KeyId)
  /-- A sealed record of sender and content. -/
  | v1 (id : KeyId)
deriving DecidableEq, Repr

namespace EncryptionKeyId

/-- The mark of the sealed-record format. -/
def mark : List Char := ['v', '1', '/']

def keyId : EncryptionKeyId → KeyId
  | unversioned id => id
  | v1 id => id

def text : EncryptionKeyId → String
  | unversioned id => id.text
  | v1 id => String.ofList mark ++ id.text

/-- What a text form stands for; the empty text stands for no encryption. -/
def parse (text : String) : Option EncryptionKeyId :=
  match text.toList with
  | [] => none
  | 'v' :: '1' :: '/' :: id => some (v1 ⟨String.ofList id⟩)
  | id => some (unversioned ⟨String.ofList id⟩)

end EncryptionKeyId

/-- How much a viewer is shown. -/
inductive PrivilegeLevel where
  | general
  | host
  | staff
deriving DecidableEq, Repr, Ord, Inhabited

/-- A participant's session as shown on messages. -/
structure Session where
  id : String
  name : String
  serverId : String
  serverEra : String
  sessionId : String
  /-- For privileged viewers only. -/
  clientAddress : Option String
  isStaff : Bool
  isManager : Bool
deriving DecidableEq, Repr

namespace Session

/-- A session of which nothing is known. -/
def blank : Session where
  id := ""
  name := ""
  serverId := ""
  serverEra := ""
  sessionId := ""
  clientAddress := none
  isStaff := false
  isManager := false

def withoutAddress (s : Session) : Session :=
  { s with clientAddress := none }

/-- The session as a viewer may see it. -/
def shownAt (level : PrivilegeLevel) (s : Session) : Session :=
  if level = .general then s.withoutAddress else s

def record :
    Record (String × String × String × String × String × Option String × Bool × Bool × Unit) where
  name := "SessionView"
  fields :=
    .cons { name := "id", codec := .string } <|
    .cons { name := "name", codec := .string } <|
    .cons { name := "server_id", codec := .string } <|
    .cons { name := "server_era", codec := .string } <|
    .cons { name := "session_id", codec := .string } <|
    .cons (.optional "client_address" .string) <|
    .cons { name := "is_staff", codec := .bool, absent := some false } <|
    .cons { name := "is_manager", codec := .bool, absent := some false } .nil

def codec : Codec Session :=
  record.codec
    (fun (id, name, serverId, serverEra, sessionId, clientAddress, isStaff, isManager, _) =>
      ⟨id, name, serverId, serverEra, sessionId, clientAddress, isStaff, isManager⟩)
    fun s =>
      (s.id, s.name, s.serverId, s.serverEra, s.sessionId, s.clientAddress, s.isStaff,
        s.isManager, ())

end Session

/-- A chat message. -/
structure Message where
  /-- Also names the content when it is encrypted. -/
  id : Snowflake
  /-- The message that this one answers. -/
  parent : Option Snowflake
  /-- Seconds since the start of 1970. -/
  time : Int64
  sender : Session
  /-- Encrypted if a key is named. -/
  content : String
  encryptionKeyId : Option EncryptionKeyId
  /-- Whether the content was cut short, so that it cannot be decrypted. -/
  truncated : Bool
deriving DecidableEq, Repr

namespace Message

/-- The key of a message as text; the empty text is no key. -/
def keyIdCodec : Codec (Option EncryptionKeyId) :=
  Codec.string.option.refine (fun text => .ok (text.bind EncryptionKeyId.parse))
    (Option.map EncryptionKeyId.text)

def record :
    Record (Snowflake × Option Snowflake × Int64 × Session × String × Option EncryptionKeyId
      × Bool × Unit) where
  name := "Message"
  fields :=
    .cons { name := "id", codec := .snowflake } <|
    .cons (.optional "parent" .snowflake) <|
    .cons { name := "time", codec := .int64 } <|
    .cons { name := "sender", codec := Session.codec } <|
    .cons { name := "content", codec := .string } <|
    .cons { name := "encryption_key_id", codec := keyIdCodec, absent := some none,
            hidden := Option.isNone } <|
    .cons { name := "truncated", codec := .bool, absent := some false } .nil

def codec : Codec Message :=
  record.codec
    (fun (id, parent, time, sender, content, encryptionKeyId, truncated, _) =>
      ⟨id, parent, time, sender, content, encryptionKeyId, truncated⟩)
    fun m =>
      (m.id, m.parent, m.time, m.sender, m.content, m.encryptionKeyId, m.truncated, ())

end Message

end ChatKeys
