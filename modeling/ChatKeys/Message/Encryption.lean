/-
  ChatKeys.Message.Encryption

  Encrypting and decrypting messages.

  Encrypted content is the base64 text of the tag, a slash, and the base64 text
  of the ciphertext.  The message's identifier names the content and the
  sender's identifier is authenticated with it, so that content can be moved
  neither to another message nor to another sender.

    * `Message.encrypt` — always in the sealed-record format, which hides all
      of the sender but two identifiers and never holds a network address;
    * `Message.decrypt` — either format, as a viewer of some level may see it.
-/
import ChatKeys.Key.Content
import ChatKeys.Message.Basic

namespace ChatKeys

open Json

/-- What the sealed-record format encrypts. -/
structure SealedRecord where
  sender : Session
  content : String
deriving DecidableEq, Repr

def SealedRecord.record : Record (Session × String × Unit) where
  name := "SealedRecord"
  fields :=
    .cons { name := "sender", codec := Session.codec } <|
    .cons { name := "content", codec := .string } .nil

def SealedRecord.codec : Codec SealedRecord :=
  SealedRecord.record.codec (fun (sender, content, _) => ⟨sender, content⟩)
    fun r => (r.sender, r.content, ())

/-- The keys that a reader has, by name. -/
abbrev KeyRing := KeyId → Option Key

namespace KeyRing

def empty : KeyRing := fun _ => none

/-- The keys with one more, which takes the place of a key of the same name. -/
def insert (keys : KeyRing) (id : KeyId) (key : Key) : KeyRing := fun other =>
  if other = id then some key else keys other

/-- The keys of a list; of two with the same name the later one counts. -/
def ofList (entries : List (KeyId × Key)) : KeyRing :=
  entries.foldl (fun keys (id, key) => keys.insert id key) empty

end KeyRing

namespace SealedContent

def text (c : SealedContent) : String :=
  Base64.encode c.digest ++ "/" ++ Base64.encode c.ciphertext

/-- The parts of a text between its slashes. -/
def splitAtSlashes : List Char → List (List Char)
  | [] => [[]]
  | c :: rest =>
    let parts := splitAtSlashes rest
    if c = '/' then [] :: parts
    else
      match parts with
      | [] => [[c]]
      | part :: others => (c :: part) :: others

/-- Reads a text form: two base64 texts with a slash between them. -/
def parse (text : String) : Except Corruption SealedContent :=
  match splitAtSlashes text.toList with
  | [digest, ciphertext] =>
    match Base64.decodeChars? digest with
    | none => .error .digestText
    | some digest =>
      match Base64.decodeChars? ciphertext with
      | none => .error .ciphertextText
      | some ciphertext => .ok { digest := digest, ciphertext := ciphertext }
  | _ => .error .contentShape

end SealedContent

namespace Message

/-- The material that names a message's content. -/
def nonceMaterial (m : Message) : Bytes := Bytes.ofString m.id.text

/-- What a message's content is authenticated with. -/
def associatedData (m : Message) : Bytes := Bytes.ofString m.sender.id

/-- What is sealed of a message. -/
def sealedRecord (m : Message) : SealedRecord where
  sender := m.sender.withoutAddress
  content := m.content

/-- The sender as shown on an encrypted message. -/
def outerSender (m : Message) : Session :=
  { Session.blank with id := m.sender.id, sessionId := m.sender.sessionId }

/-- Encrypts a message under a key of the given name. -/
def encrypt (m : Message) (keyId : KeyId) (key : Key) : Except KeyError Message := do
  if key.isEncrypted then throw .mustBeDecrypted
  let plaintext := Bytes.ofString (SealedRecord.codec.text m.sealedRecord)
  let content ← key.sealContent m.nonceMaterial plaintext m.associatedData
  return { m with
    sender := m.outerSender
    content := content.text
    encryptionKeyId := some (.v1 keyId) }

/-- The message with what its decrypted content says, by the format of its key. -/
def withPlaintext (m : Message) (level : PrivilegeLevel) (keyId : EncryptionKeyId)
    (plaintext : Bytes) : Except Error Message :=
  match keyId with
  | .unversioned _ =>
    match Bytes.toString? plaintext with
    | some content => .ok { m with content := content }
    | none => .error (.corrupted .contentText)
  | .v1 _ =>
    match SealedRecord.codec.decode plaintext with
    | .ok opened => .ok { m with sender := opened.sender.shownAt level, content := opened.content }
    | .error cause => .error (.corrupted (.sealedRecord cause))

/-- Decrypts a message with the key that it names, as a viewer may see it. A
    message that is not encrypted, or is truncated, is shown as it is. -/
def decrypt (m : Message) (keys : KeyRing) (level : PrivilegeLevel) : Logged Message :=
  -- What is shown of the sender depends on the viewer even if nothing is decrypted.
  let m := { m with sender := m.sender.shownAt level }
  match m.encryptionKeyId with
  | none => pure m
  | some keyId =>
    if m.truncated then pure m
    else
      match keys keyId.keyId with
      | none => .refuse (.messageKeyUnknown m.id keyId.text) .accessDenied
      | some key => .ofExcept do
        if key.isEncrypted then throw (.keyState .mustBeDecrypted)
        let content ← (SealedContent.parse m.content).mapError .corrupted
        let plaintext ← key.openContent m.nonceMaterial content m.associatedData
        m.withPlaintext level keyId plaintext

end Message

end ChatKeys
