/-
  ChatKeys.Proofs.Message.Levels

  What a viewer's level decides.

    * `withPlaintext_shownAt`, `result_decrypt_shownAt` — a viewer of any level is shown
      what a host is shown, as that level may see it;
    * `events_decrypt` — and what is reported does not depend on the level at all;
    * `decrypt_levels` — so hosts and staff are told the same, and everybody else that
      without the sender's address, or the same error.

  The address may come from the message itself or from the sealed record, and there are
  messages for which it does (`exists_content_with_address`).
-/
import ChatKeys.Proofs.Message.Opening

namespace ChatKeys

@[simp] theorem Session.shownAt_host (s : Session) : s.shownAt .host = s := rfl

namespace Message

variable (m : Message) (keys : KeyRing) (level : PrivilegeLevel)

/-- The message with its sender's address left out. -/
def withoutAddress (m : Message) : Message :=
  { m with sender := m.sender.withoutAddress }

@[simp] theorem shownAt_host : m.shownAt .host = m := rfl

@[simp] theorem shownAt_staff : m.shownAt .staff = m := rfl

@[simp] theorem shownAt_general : shownAt .general = withoutAddress := rfl

/-- Either format of a plaintext says the same to every viewer, as the viewer may
    see it: in the older one the sender is the message's, in the newer the record's. -/
theorem withPlaintext_shownAt (keyId : EncryptionKeyId) (plaintext : Bytes) :
    (m.shownAt level).withPlaintext level keyId plaintext =
      (m.withPlaintext .host keyId plaintext).map (shownAt level) := by
  cases keyId with
  | unversioned id =>
    simp only [withPlaintext]
    cases Bytes.toString? plaintext with
    | none => rfl
    | some content => rfl
  | v1 id =>
    simp only [withPlaintext, Session.shownAt_host]
    cases SealedRecord.codec.decode plaintext with
    | error cause => rfl
    | ok opened => rfl

/-- A viewer of any level is shown what a host is shown, as that level may see it. -/
theorem result_decrypt_shownAt :
    (m.decrypt keys level).result = (m.decrypt keys .host).result.map (shownAt level) := by
  rw [result_decrypt, result_decrypt]
  cases hk : m.encryptionKeyId with
  | none => rfl
  | some keyId =>
    cases hcut : m.truncated with
    | true => rfl
    | false =>
      cases hkey : keys keyId.keyId with
      | none => simp [hkey, Except.map]
      | some key =>
        cases hopened : m.openedWith key with
        | error e => simp only [hkey, hopened]; rfl
        | ok plaintext =>
          simp only [hkey, hopened, shownAt_host]
          exact withPlaintext_shownAt m level keyId plaintext

/-- Decrypting reports that a key is missing, to a viewer of any level alike. -/
theorem events_decrypt :
    (m.decrypt keys level).events = (m.decrypt keys .host).events := by
  rw [decrypt, decrypt]
  cases hk : m.encryptionKeyId with
  | none => rfl
  | some keyId =>
    cases hcut : m.truncated with
    | true => rfl
    | false =>
      cases hkey : keys keyId.keyId with
      | none => simp only [hkey, Bool.false_eq_true, if_false, Logged.refuse]
      | some key => simp only [hkey, Bool.false_eq_true, if_false, Logged.ofExcept]

theorem clientAddress_withoutAddress : m.withoutAddress.sender.clientAddress = none := rfl

/-- Levels differ only in the sender's address. Whatever the message says of its key
    and its content, whoever sealed that, and whichever keys are at hand: staff are told
    what a host is told, and everybody else the same without the address, so that they
    are never shown one. Errors and reports are the same at every level. -/
theorem decrypt_levels :
    m.decrypt keys .staff = m.decrypt keys .host ∧
      (m.decrypt keys .general).events = (m.decrypt keys .host).events ∧
      (m.decrypt keys .general).result = (m.decrypt keys .host).result.map withoutAddress ∧
      ∀ shown, (m.decrypt keys .general).result = .ok shown →
        shown.sender.clientAddress = none := by
  have hgeneral : (m.decrypt keys .general).result =
      (m.decrypt keys .host).result.map withoutAddress := by
    rw [result_decrypt_shownAt, shownAt_general]
  have hstaff : (m.decrypt keys .staff).result = (m.decrypt keys .host).result := by
    rw [result_decrypt_shownAt]
    cases (m.decrypt keys .host).result with
    | error e => rfl
    | ok shown => rw [Except.map, shownAt_staff]
  refine ⟨?_, events_decrypt m keys .general, hgeneral, ?_⟩
  · calc m.decrypt keys .staff
        = ⟨(m.decrypt keys .staff).events, (m.decrypt keys .staff).result⟩ := rfl
      _ = ⟨(m.decrypt keys .host).events, (m.decrypt keys .host).result⟩ := by
          rw [hstaff, events_decrypt]
  · intro shown hshown
    rw [hgeneral] at hshown
    obtain ⟨host, -, rfl⟩ := map_eq_ok_iff.mp hshown
    exact clientAddress_withoutAddress host

/-- The address does have to be taken out of what is decrypted: with its key there is
    content for a message that shows a host any address. -/
theorem exists_content_with_address (hcut : m.truncated = false) {keyId : KeyId}
    (hname : m.encryptionKeyId = some (.v1 keyId)) {key : Key} (hkeys : keys keyId = some key)
    (hkey : key.isUsable = true) (address : String) :
    ∃ content shown, ({ m with content := content }.decrypt keys .host).result = .ok shown ∧
      shown.sender.clientAddress = some address := by
  let sealedRecord : SealedRecord :=
    { sender := { m.sender with clientAddress := some address }, content := m.content }
  obtain ⟨content, hshown⟩ := exists_content_shown_as hcut hname hkeys hkey sealedRecord .host
  exact ⟨content, _, hshown, rfl⟩

end Message

end ChatKeys
