/-
  ChatKeys.Proofs.Message.Sealing

  What encrypting gives, and what becomes of it.

  With a key of the cipher encrypting always succeeds, and the content of the
  result is the sealed record under that key (`encrypt_of_isUsable`).  The encrypted
  message survives being stored, and decrypting it gives the message back, without the
  sender's address (`decrypt_encrypt_stored`).
-/
import ChatKeys.Proofs.Message.Opening

namespace ChatKeys

open Json

namespace Message

/-- What is encrypted of a message. -/
def recordBytes (m : Message) : Bytes :=
  Bytes.ofString (SealedRecord.codec.text m.sealedRecord)

/-- The message as it is sent with some encrypted content. -/
def withSealed (m : Message) (keyId : EncryptionKeyId) (c : SealedContent) : Message :=
  { m with sender := m.outerSender, content := c.text, encryptionKeyId := some keyId }

/-- Encrypting with a key of the cipher succeeds, and seals the record. -/
theorem encrypt_of_isUsable {key : Key} (hkey : key.isUsable = true) (m : Message) (keyId : KeyId) :
    ∃ c, key.sealContent m.nonceMaterial m.recordBytes m.associatedData = .ok c ∧
      m.encrypt keyId key = .ok (m.withSealed (.v1 keyId) c) := by
  obtain ⟨secret, hsecret⟩ := Key.isUsable_iff.mp hkey
  obtain ⟨c, hseal⟩ :=
    Key.exists_sealContent_of_isUsable hkey m.nonceMaterial m.recordBytes m.associatedData
  refine ⟨c, hseal, ?_⟩
  simp only [recordBytes] at hseal
  simp only [encrypt, Key.not_isEncrypted_of_cipherSecret hsecret, hseal]
  rfl

/-- The record opens with the key that sealed it, under whatever name the key has. -/
theorem openedWith_withSealed {m : Message} {key : Key} {c : SealedContent}
    (hseal : key.sealContent m.nonceMaterial m.recordBytes m.associatedData = .ok c)
    (keyId : EncryptionKeyId) : (m.withSealed keyId c).openedWith key = .ok m.recordBytes :=
  openedWith_eq_ok_iff.mpr ⟨c, hseal, rfl⟩

/-- What is sent has no address to be hidden. -/
theorem shownAt_withSealed (m : Message) (keyId : EncryptionKeyId) (c : SealedContent)
    (level : PrivilegeLevel) : (m.withSealed keyId c).shownAt level = m.withSealed keyId c := by
  have haddress : m.outerSender.clientAddress = none := rfl
  simp only [shownAt, withSealed, Session.shownAt_of_clientAddress haddress]

/-- What is sent opens, and is shown as its format says, under whatever name its
    key has. -/
theorem result_decrypt_withSealed {m : Message} (hcut : m.truncated = false) {key : Key}
    {c : SealedContent}
    (hseal : key.sealContent m.nonceMaterial m.recordBytes m.associatedData = .ok c)
    {keys : KeyRing} {keyId : EncryptionKeyId} (hkey : keys keyId.keyId = some key)
    (level : PrivilegeLevel) :
    ((m.withSealed keyId c).decrypt keys level).result =
      (m.withSealed keyId c).withPlaintext level keyId m.recordBytes := by
  have hname : (m.withSealed keyId c).encryptionKeyId = some keyId := rfl
  have hsent : (m.withSealed keyId c).truncated = false := hcut
  rw [result_decrypt_of_openedWith hname hsent hkey (openedWith_withSealed hseal keyId),
    shownAt_withSealed]

/-- The sealed record is read back, without an address to be hidden. -/
theorem withPlaintext_recordBytes_v1 (sent m : Message) (level : PrivilegeLevel) (keyId : KeyId) :
    sent.withPlaintext level (.v1 keyId) m.recordBytes =
      .ok { sent with sender := m.sender.withoutAddress, content := m.content } := by
  have hdecode : SealedRecord.codec.decode m.recordBytes = .ok m.sealedRecord :=
    (SealedRecord.restores m.sealedRecord).decode_text
  have haddress : m.sealedRecord.sender.clientAddress = none := rfl
  simp only [withPlaintext, hdecode, Session.shownAt_of_clientAddress haddress]
  rfl

/-- In the older format any text is content, that of a sealed record too. -/
theorem withPlaintext_recordBytes_unversioned (sent m : Message) (level : PrivilegeLevel)
    (keyId : KeyId) :
    sent.withPlaintext level (.unversioned keyId) m.recordBytes =
      .ok { sent with content := SealedRecord.codec.text m.sealedRecord } := by
  simp only [withPlaintext, recordBytes, Bytes.toString?_ofString]

/-- An encrypted message survives being stored, and decrypting it gives the
    message without its sender's address, under the key that was used. -/
theorem decrypt_encrypt_stored (m : Message) (hcut : m.truncated = false) (keyId : KeyId)
    (key : Key) (hkey : key.isUsable = true) (keys : KeyRing) (hkeys : keys keyId = some key)
    (level : PrivilegeLevel) :
    ∃ sent document, m.encrypt keyId key = .ok sent ∧
      Message.codec.encode sent = .ok document ∧ Message.codec.decodeText document = .ok sent ∧
      (sent.decrypt keys level).result = .ok { m with
        sender := m.sender.withoutAddress, encryptionKeyId := some (.v1 keyId) } := by
  obtain ⟨c, hseal, hencrypt⟩ := encrypt_of_isUsable hkey m keyId
  -- The name of the key has its mark in front, so it is read back whatever it is.
  have hstored : Message.codec.Restores (m.withSealed (.v1 keyId) c) := by
    apply Message.restores
    rintro _ ⟨⟩
    exact EncryptionKeyId.parse_text_v1 keyId
  refine ⟨m.withSealed (.v1 keyId) c, _, hencrypt, hstored.encode_eq, hstored.decodeText_text, ?_⟩
  rw [result_decrypt_withSealed hcut hseal hkeys, withPlaintext_recordBytes_v1]
  rfl

/-- The example message under the example key. -/
theorem decrypt_encrypt_stored_example :
    exampleMessage.truncated = false ∧ exampleKey.isUsable = true ∧
      exampleKeys ⟨"k1"⟩ = some exampleKey ∧
      ∃ sent document, exampleMessage.encrypt ⟨"k1"⟩ exampleKey = .ok sent ∧
        Message.codec.encode sent = .ok document ∧ Message.codec.decodeText document = .ok sent ∧
        (sent.decrypt exampleKeys .general).result
          = .ok { exampleMessage with encryptionKeyId := some (.v1 ⟨"k1"⟩) } :=
  ⟨rfl, rfl, rfl,
    decrypt_encrypt_stored exampleMessage rfl ⟨"k1"⟩ exampleKey rfl exampleKeys rfl .general⟩

end Message

end ChatKeys
