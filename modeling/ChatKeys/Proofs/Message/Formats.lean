/-
  ChatKeys.Proofs.Message.Formats

  What was encrypted, under other names of keys.

  The name of a key says which key it is and which format the content has, and is not
  authenticated.  Under a name that the reader has no key for the message is denied; under
  the older format's name of its own key the sealed record opens as a text
  (`decrypt_encrypt_under_other_key`), so the format is not tied to what was encrypted
  (`not_encrypt_ties_format`).
-/
import ChatKeys.Proofs.Raw.Sealing

namespace ChatKeys.Message

variable {m : Message} {key : Key} {c : SealedContent} {keys : KeyRing} {keyId : KeyId}

/-- Renaming the key of what is sent is sending it under the other name. -/
theorem withSealed_renamed (m : Message) (keyId other : EncryptionKeyId) (c : SealedContent) :
    { m.withSealed keyId c with encryptionKeyId := some other } = m.withSealed other c := rfl

/-- What is sent opens under the older format's name of its key too. -/
theorem result_decrypt_older_format (hcut : m.truncated = false)
    (hseal : key.sealContent m.nonceMaterial m.recordBytes m.associatedData = .ok c)
    (hkeys : keys keyId = some key) (level : PrivilegeLevel) :
    ((m.withSealed (.unversioned keyId) c).decrypt keys level).result =
      .ok { m.withSealed (.unversioned keyId) c with
        content := SealedRecord.codec.text m.sealedRecord } := by
  have hname : keys (EncryptionKeyId.unversioned keyId).keyId = some key := hkeys
  rw [result_decrypt_withSealed hcut hseal hname, withPlaintext_recordBytes_unversioned]

/-- A message whose record is short enough for the cipher is encrypted without anything
    impossible. -/
theorem encryptRaw_of_encrypt {sent : Message}
    (hshort : m.recordBytes.length < XChaCha20Poly1305.textLimit)
    (h : m.encrypt keyId key = .ok sent) : m.encryptRaw keyId key.raw = .ok sent := by
  rw [encrypt_raw m keyId key hshort, h]
  rfl

/-- A message whose record is short enough for the cipher can be encrypted. Under the name of a
    key that the reader does not have, what was encrypted is denied. Under the older format's
    name of its own key it opens: what is shown is the text of the sealed record. -/
theorem decrypt_encrypt_under_other_key (m : Message) (hcut : m.truncated = false)
    (hshort : m.recordBytes.length < XChaCha20Poly1305.textLimit) (keyId : KeyId)
    (key : Key) (hkey : key.isUsable = true) (keys : KeyRing) (hkeys : keys keyId = some key)
    (level : PrivilegeLevel) :
    ∃ sent, m.encryptRaw keyId key.raw = .ok sent ∧ m.encrypt keyId key = .ok sent ∧
      (∀ other : EncryptionKeyId, keys other.keyId = none →
        ({ sent with encryptionKeyId := some other }.decrypt keys level).result
          = .error .accessDenied) ∧
      ({ sent with encryptionKeyId := some (.unversioned keyId) }.decrypt keys level).result
        = .ok { sent with
          content := SealedRecord.codec.text m.sealedRecord
          encryptionKeyId := some (.unversioned keyId) } := by
  obtain ⟨c, hseal, hencrypt⟩ := encrypt_of_isUsable hkey m keyId
  refine ⟨m.withSealed (.v1 keyId) c, encryptRaw_of_encrypt hshort hencrypt, hencrypt, ?_, ?_⟩
  · intro other hother
    have hsent : (m.withSealed other c).truncated = false := hcut
    rw [withSealed_renamed, result_decrypt_of_unknown rfl hsent hother]
  · rw [withSealed_renamed, result_decrypt_older_format hcut hseal hkeys]
    rfl

/-- The example message under a name that its reader has no key for, and under the
    older format's name of its key. -/
theorem decrypt_encrypt_under_other_key_example :
    exampleMessage.truncated = false ∧
      exampleMessage.recordBytes.length < XChaCha20Poly1305.textLimit ∧
      exampleKey.isUsable = true ∧
      exampleKeys ⟨"k1"⟩ = some exampleKey ∧ exampleKeys ⟨"k2"⟩ = none ∧
      ∃ sent, exampleMessage.encryptRaw ⟨"k1"⟩ exampleKey.raw = .ok sent ∧
        exampleMessage.encrypt ⟨"k1"⟩ exampleKey = .ok sent ∧
        ({ sent with encryptionKeyId := some (.v1 ⟨"k2"⟩) }.decrypt exampleKeys .general).result
          = .error .accessDenied ∧
        ({ sent with encryptionKeyId := some (.unversioned ⟨"k1"⟩) }.decrypt
            exampleKeys .general).result
          = .ok { sent with
            content := SealedRecord.codec.text exampleMessage.sealedRecord
            encryptionKeyId := some (.unversioned ⟨"k1"⟩) } := by
  have hshort : exampleMessage.recordBytes.length < XChaCha20Poly1305.textLimit := by
    decide +kernel
  obtain ⟨sent, hraw, hencrypt, hdenied, hopened⟩ := decrypt_encrypt_under_other_key
    exampleMessage rfl hshort ⟨"k1"⟩ exampleKey rfl exampleKeys rfl .general
  exact ⟨rfl, hshort, rfl, rfl, rfl, sent, hraw, hencrypt, hdenied (.v1 ⟨"k2"⟩) rfl, hopened⟩

/-- What was encrypted is not tied to its format: the example message opens under
    another name than the one that it was encrypted under. -/
theorem not_encrypt_ties_format :
    ¬ ∀ (m : Message) (keyId : KeyId) (key : Key) (keys : KeyRing) (level : PrivilegeLevel)
        (other : EncryptionKeyId) (sent shown : Message),
      m.truncated = false → key.isUsable = true → keys keyId = some key →
        other ≠ .v1 keyId → (other.keyId = keyId ∨ keys other.keyId = none) →
        m.encrypt keyId key = .ok sent →
        ({ sent with encryptionKeyId := some other }.decrypt keys level).result ≠ .ok shown := by
  intro htied
  have hkeys : exampleKeys ⟨"k1"⟩ = some exampleKey := rfl
  obtain ⟨c, hseal, hencrypt⟩ := encrypt_of_isUsable (rfl : exampleKey.isUsable = true)
    exampleMessage ⟨"k1"⟩
  have hopened := result_decrypt_older_format rfl hseal hkeys .general
  rw [← withSealed_renamed exampleMessage (.v1 ⟨"k1"⟩)] at hopened
  exact htied exampleMessage ⟨"k1"⟩ exampleKey exampleKeys .general (.unversioned ⟨"k1"⟩) _ _
    rfl rfl hkeys nofun (.inl rfl) hencrypt hopened

end ChatKeys.Message
