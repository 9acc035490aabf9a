/-
  ChatKeys.Proofs.Message.Opening

  When decrypting a message succeeds, and whom the message is attributed to then.

    * `Message.openedWith` — the plaintext of a message's content under a key;
      there is one exactly if the content is what sealing that plaintext gives
      (`openedWith_eq_ok_iff`);
    * `Message.result_decrypt_*` — the cases of decrypting, by the key that the
      message names.

  A sealed record has a sender of its own, and nothing compares it with the one
  that the content was authenticated with.  Whoever holds the message key can
  therefore have a message shown under any name (`exists_content_shown_as`);
  `decrypt_reattributes_iff` gives the exact condition.
-/
import ChatKeys.Message.Encryption
import ChatKeys.Proofs.Key.Content
import ChatKeys.Proofs.Message.Stored

namespace ChatKeys

open Json

namespace Session

@[simp] theorem id_shownAt (level : PrivilegeLevel) (s : Session) : (s.shownAt level).id = s.id := by
  rw [shownAt]
  split <;> rfl

theorem shownAt_of_clientAddress {s : Session} (h : s.clientAddress = none)
    (level : PrivilegeLevel) : s.shownAt level = s := by
  rw [shownAt]
  split
  · obtain ⟨_, _, _, _, _, _, _, _⟩ := s
    cases h
    rfl
  · rfl

end Session

namespace Message

/-- The message as a viewer may see it without decrypting it. -/
def shownAt (level : PrivilegeLevel) (m : Message) : Message :=
  { m with sender := m.sender.shownAt level }

/-- The plaintext of a message's content under a key. -/
def openedWith (m : Message) (key : Key) : Except Error Bytes := do
  if key.isEncrypted then throw (.keyState .mustBeDecrypted)
  let content ← (SealedContent.parse m.content).mapError .corrupted
  key.openContent m.nonceMaterial content m.associatedData

/-- The message's content is what sealing a plaintext under a key gives. -/
def Seals (m : Message) (key : Key) (plaintext : Bytes) : Prop :=
  ∃ c, key.sealContent m.nonceMaterial plaintext m.associatedData = .ok c ∧ m.content = c.text

theorem openedWith_eq_ok_iff {m : Message} {key : Key} {plaintext : Bytes} :
    m.openedWith key = .ok plaintext ↔ m.Seals key plaintext := by
  constructor
  · intro h
    rw [openedWith] at h
    cases hkey : key.isEncrypted with
    | true => rw [hkey] at h; cases h
    | false =>
      cases hc : SealedContent.parse m.content with
      | error e => rw [hkey, hc] at h; cases h
      | ok c =>
        rw [hkey, hc] at h
        exact ⟨c, Key.openContent_eq_ok_iff.mp h, SealedContent.parse_eq_ok_iff.mp hc⟩
  · rintro ⟨c, hseal, hc⟩
    have hkey : key.isEncrypted = false := by
      cases hs : key.cipherSecret with
      | ok secret => exact Key.not_isEncrypted_of_cipherSecret hs
      | error e => rw [Key.sealContent, hs] at hseal; cases hseal
    rw [openedWith, hkey, hc, SealedContent.parse_text]
    exact Key.openContent_eq_ok_iff.mpr hseal

theorem seals_of_sealContent {m : Message} {key : Key} {plaintext : Bytes} {c : SealedContent}
    (h : key.sealContent m.nonceMaterial plaintext m.associatedData = .ok c) :
    { m with content := c.text }.Seals key plaintext :=
  ⟨c, h, rfl⟩

theorem openedWith_bind {α : Type} (m : Message) (key : Key) (f : Bytes → Except Error α) :
    (do
      if key.isEncrypted then throw (.keyState .mustBeDecrypted)
      let content ← (SealedContent.parse m.content).mapError .corrupted
      let plaintext ← key.openContent m.nonceMaterial content m.associatedData
      f plaintext) = m.openedWith key >>= f := by
  rw [openedWith]
  cases key.isEncrypted with
  | true => rfl
  | false =>
    cases SealedContent.parse m.content with
    | error e => rfl
    | ok c => rfl

/-! ## Decrypting -/

/-- What decrypting answers, by the key that the message names. -/
theorem result_decrypt (m : Message) (keys : KeyRing) (level : PrivilegeLevel) :
    (m.decrypt keys level).result =
      match m.encryptionKeyId with
      | none => .ok (m.shownAt level)
      | some keyId =>
        if m.truncated then .ok (m.shownAt level)
        else
          match keys keyId.keyId with
          | none => .error .accessDenied
          | some key => m.openedWith key >>= (m.shownAt level).withPlaintext level keyId := by
  -- The address that a viewer may not see is no part of what is authenticated.
  have hopened : ∀ key, (m.shownAt level).openedWith key = m.openedWith key := by
    intro key
    simp only [openedWith, associatedData, shownAt, Session.id_shownAt]
    rfl
  simp only [← hopened]
  obtain ⟨id, parent, time, sender, content, keyId, truncated⟩ := m
  rw [decrypt]
  cases keyId with
  | none => rfl
  | some keyId =>
    cases truncated with
    | true => rfl
    | false =>
      cases hkey : keys keyId.keyId with
      | none => simp only [hkey]; rfl
      | some key =>
        simp only [hkey]
        exact openedWith_bind (shownAt level ⟨id, parent, time, sender, content, keyId, false⟩) key _

theorem result_decrypt_of_openedWith {m : Message} {keys : KeyRing} {keyId : EncryptionKeyId}
    {key : Key} {plaintext : Bytes} (hk : m.encryptionKeyId = some keyId)
    (hcut : m.truncated = false) (hkey : keys keyId.keyId = some key)
    (hplaintext : m.openedWith key = .ok plaintext) (level : PrivilegeLevel) :
    (m.decrypt keys level).result = (m.shownAt level).withPlaintext level keyId plaintext := by
  simp only [result_decrypt, hk, hcut, hkey, hplaintext]
  rfl

theorem result_decrypt_of_unknown {m : Message} {keys : KeyRing} {keyId : EncryptionKeyId}
    (hk : m.encryptionKeyId = some keyId) (hcut : m.truncated = false)
    (hkey : keys keyId.keyId = none) (level : PrivilegeLevel) :
    (m.decrypt keys level).result = .error .accessDenied := by
  simp [result_decrypt, hk, hcut, hkey]

/-- Decrypting succeeds on messages that are not to be decrypted, and on those
    whose content a key of theirs sealed in their format. -/
theorem result_decrypt_eq_ok_iff {m : Message} {keys : KeyRing} {level : PrivilegeLevel}
    {shown : Message} :
    (m.decrypt keys level).result = .ok shown ↔
      ((m.encryptionKeyId = none ∨ m.truncated = true) ∧ shown = m.shownAt level) ∨
        (m.truncated = false ∧ ∃ keyId key plaintext,
          m.encryptionKeyId = some keyId ∧ keys keyId.keyId = some key ∧ m.Seals key plaintext ∧
            (m.shownAt level).withPlaintext level keyId plaintext = .ok shown) := by
  constructor
  · -- The questions in the order of `result_decrypt`: a key name, a whole content, a key, a
    -- plaintext.
    intro h
    rw [result_decrypt] at h
    cases hk : m.encryptionKeyId with
    | none =>
      rw [hk] at h
      exact .inl ⟨.inl rfl, (Except.ok.inj h).symm⟩
    | some keyId =>
      cases hcut : m.truncated with
      | true =>
        rw [hk, hcut] at h
        exact .inl ⟨.inr rfl, (Except.ok.inj h).symm⟩
      | false =>
        cases hkey : keys keyId.keyId with
        | none => simp [hk, hcut, hkey] at h
        | some key =>
          cases hplaintext : m.openedWith key with
          | error e =>
            simp only [hk, hcut, hkey, hplaintext] at h
            cases h
          | ok plaintext =>
            rw [← result_decrypt, result_decrypt_of_openedWith hk hcut hkey hplaintext] at h
            exact .inr ⟨rfl, keyId, key, plaintext, rfl, hkey,
              openedWith_eq_ok_iff.mp hplaintext, h⟩
  · rintro (⟨hplain, rfl⟩ | ⟨hcut, keyId, key, plaintext, hk, hkey, hseals, h⟩)
    · rw [result_decrypt]
      cases hk : m.encryptionKeyId with
      | none => rfl
      | some keyId =>
        have hcut : m.truncated = true := hplain.resolve_left (by simp [hk])
        simp only [hcut, if_true]
    · rw [result_decrypt_of_openedWith hk hcut hkey (openedWith_eq_ok_iff.mpr hseals)]
      exact h

/-! ## Attribution -/

/-- The sender's identifier stays, unless it is read from a sealed record. -/
theorem withPlaintext_eq_ok_sender {m shown : Message} {level : PrivilegeLevel}
    {keyId : EncryptionKeyId} {plaintext : Bytes}
    (h : m.withPlaintext level keyId plaintext = .ok shown) :
    shown.sender.id = m.sender.id ∨
      ∃ id opened, keyId = .v1 id ∧ SealedRecord.codec.decode plaintext = .ok opened ∧
        shown.sender.id = opened.sender.id := by
  cases keyId with
  | unversioned id =>
    rw [withPlaintext] at h
    split at h
    · obtain rfl := Except.ok.inj h
      exact .inl rfl
    · cases h
  | v1 id =>
    rw [withPlaintext] at h
    split at h
    · next opened hopened =>
      obtain rfl := Except.ok.inj h
      exact .inr ⟨id, opened, rfl, hopened, Session.id_shownAt _ _⟩
    · cases h

/-- Decrypting attributes a message to another sender than the authenticated one
    exactly if it is in the sealed-record format and a holder of its key sealed a
    record with that other sender. -/
theorem decrypt_reattributes_iff (m : Message) (keys : KeyRing) (level : PrivilegeLevel) :
    (∃ shown, (m.decrypt keys level).result = .ok shown ∧ shown.sender.id ≠ m.sender.id) ↔
      m.truncated = false ∧ ∃ id key plaintext opened,
        m.encryptionKeyId = some (.v1 id) ∧ keys id = some key ∧ m.Seals key plaintext ∧
          SealedRecord.codec.decode plaintext = .ok opened ∧ opened.sender.id ≠ m.sender.id := by
  simp only [result_decrypt_eq_ok_iff]
  have hid : (m.shownAt level).sender.id = m.sender.id := Session.id_shownAt level m.sender
  constructor
  · -- A message that is not decrypted, or in the older format, keeps its sender.
    rintro ⟨shown, ⟨-, rfl⟩ | ⟨hcut, keyId, key, plaintext, hk, hkey, hseals, h⟩, hne⟩
    · exact absurd hid hne
    · rcases withPlaintext_eq_ok_sender h with hsame | ⟨id, opened, rfl, hopened, hsender⟩
      · exact absurd (hsame.trans hid) hne
      · exact ⟨hcut, id, key, plaintext, opened, hk, hkey, hseals, hopened, hsender ▸ hne⟩
  · rintro ⟨hcut, id, key, plaintext, opened, hk, hkey, hseals, hopened, hne⟩
    refine ⟨{ m.shownAt level with
      sender := opened.sender.shownAt level, content := opened.content },
      .inr ⟨hcut, .v1 id, key, plaintext, hk, hkey, hseals, ?_⟩, ?_⟩
    · rw [withPlaintext, hopened]
    · rwa [Session.id_shownAt]

/-- With the key of a message there is content for it that is shown as any record
    says, whoever the message is from. -/
theorem exists_content_shown_as {m : Message} (hcut : m.truncated = false) {keyId : KeyId}
    (hname : m.encryptionKeyId = some (.v1 keyId)) {keys : KeyRing} {key : Key}
    (hkeys : keys keyId = some key) (hkey : key.isUsable = true) (r : SealedRecord)
    (level : PrivilegeLevel) :
    ∃ content, ({ m with content := content }.decrypt keys level).result
      = .ok { m with sender := r.sender.shownAt level, content := r.content } := by
  -- The record is sealed for the message as it stands, under its own sender's name.
  obtain ⟨c, hseal⟩ := Key.exists_sealContent_of_isUsable hkey m.nonceMaterial
    (Bytes.ofString (SealedRecord.codec.text r)) m.associatedData
  have hopened := openedWith_eq_ok_iff.mpr (seals_of_sealContent hseal)
  have hsent : { m with content := c.text }.encryptionKeyId = some (.v1 keyId) := hname
  have hdecode : SealedRecord.codec.decode _ = .ok r := (SealedRecord.restores r).decode_text
  refine ⟨c.text, ?_⟩
  rw [result_decrypt_of_openedWith hsent hcut hkeys hopened, withPlaintext, hdecode]
  rfl

/-! ## An example -/

/-- The keys of a reader with the example key alone. -/
def exampleKeys : KeyRing := KeyRing.empty.insert ⟨"k1"⟩ exampleKey

/-- A short message. -/
def exampleMessage : Message where
  id := ⟨42⟩
  parent := none
  time := 0
  sender := { Session.blank with id := "agent:alice", name := "Alice" }
  content := "hello"
  encryptionKeyId := none
  truncated := false

/-- A message of another sender, with content sealed for it, is shown as the
    message of Alice. -/
theorem not_decrypt_keeps_sender :
    ¬ ∀ (m : Message) (keys : KeyRing) (level : PrivilegeLevel) (shown : Message),
      m.encryptionKeyId ≠ none → m.truncated = false →
        (m.decrypt keys level).result = .ok shown → shown.sender.id = m.sender.id := by
  intro hkeeps
  let m : Message := { exampleMessage with
    sender := { Session.blank with id := "agent:mallory" }
    encryptionKeyId := some (.v1 ⟨"k1"⟩) }
  have hkeys : exampleKeys ⟨"k1"⟩ = some exampleKey := rfl
  obtain ⟨content, hshown⟩ := exists_content_shown_as (rfl : m.truncated = false) rfl hkeys rfl
    exampleMessage.sealedRecord .general
  refine absurd (hkeeps { m with content := content } exampleKeys .general _ nofun rfl hshown) ?_
  show (exampleMessage.sealedRecord.sender.shownAt .general).id ≠ "agent:mallory"
  rw [Session.id_shownAt]
  decide

end Message

end ChatKeys
