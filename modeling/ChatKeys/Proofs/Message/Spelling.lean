/-
  ChatKeys.Proofs.Message.Spelling

  Encrypted content has exactly one spelling.

  A content that opens is the text form of what sealing its plaintext gives, to the last
  character: neither base64 nor the slash between its two parts leaves a choice, and neither
  does the tag.  So among all texts there is one for each plaintext (`existsUnique_content`).
  In the older format the plaintext is the UTF-8 form of what is shown, and there is one for
  each text to be shown (`result_decrypt_unversioned_eq_ok_iff`).
-/
import ChatKeys.Proofs.Message.Opening
import ChatKeys.Proofs.Snowflake
import ChatKeys.Proofs.Text.Utf8

namespace ChatKeys.Message

variable {m shown : Message} {keys : KeyRing} {key : Key} {level : PrivilegeLevel}
  {plaintext : Bytes}

/-! ## One text for each plaintext -/

/-- Two texts that open to the same plaintext are equal. -/
theorem content_eq_of_openedWith {s s' : String}
    (h : { m with content := s }.openedWith key = .ok plaintext)
    (h' : { m with content := s' }.openedWith key = .ok plaintext) : s = s' := by
  obtain ⟨c, hseal, hs⟩ := openedWith_eq_ok_iff.mp h
  obtain ⟨c', hseal', hs'⟩ := openedWith_eq_ok_iff.mp h'
  -- Both seal the same plaintext for the same message.
  obtain rfl : c = c' := Except.ok.inj (hseal.symm.trans hseal')
  exact hs.trans hs'.symm

/-- For each plaintext there is exactly one text that opens to it. -/
theorem existsUnique_content (m : Message) (hkey : key.isUsable = true) (plaintext : Bytes) :
    ∃! s, { m with content := s }.openedWith key = .ok plaintext := by
  obtain ⟨c, hseal⟩ :=
    Key.exists_sealContent_of_isUsable hkey m.nonceMaterial plaintext m.associatedData
  have hopened := openedWith_eq_ok_iff.mpr (seals_of_sealContent hseal)
  exact ⟨c.text, hopened, fun s hs => content_eq_of_openedWith hs hopened⟩

/-! ## The older format -/

theorem withPlaintext_unversioned_eq_ok_iff {keyId : KeyId} :
    m.withPlaintext level (.unversioned keyId) plaintext = .ok shown ↔
      ∃ t, plaintext = Bytes.ofString t ∧ shown = { m with content := t } := by
  simp only [← Bytes.toString?_eq_some_iff, withPlaintext]
  cases Bytes.toString? plaintext with
  | none => simp only [reduceCtorEq, false_and, exists_false]
  | some t => simp only [Except.ok.injEq, Option.some.injEq, exists_eq_left', eq_comm]

/-- What a message in the older format is shown as: itself, with the text in place of the
    content that sealing this text gives. -/
theorem result_decrypt_unversioned_eq_ok_iff {keyId : KeyId}
    (hname : m.encryptionKeyId = some (.unversioned keyId)) (hcut : m.truncated = false)
    (hkey : keys keyId = some key) :
    (m.decrypt keys level).result = .ok shown ↔
      ∃ t, m.Seals key (Bytes.ofString t) ∧ shown = { m.shownAt level with content := t } := by
  have hlookup : keys (EncryptionKeyId.unversioned keyId).keyId = some key := hkey
  simp only [result_decrypt, hname, hcut, hlookup, Bool.false_eq_true, if_false, bind_eq_ok_iff,
    openedWith_eq_ok_iff, withPlaintext_unversioned_eq_ok_iff]
  constructor
  · rintro ⟨_, hseals, t, rfl, rfl⟩
    exact ⟨t, hseals, rfl⟩
  · rintro ⟨t, hseals, rfl⟩
    exact ⟨_, hseals, t, rfl, rfl⟩

/-- Encrypted content has exactly one spelling. A message in the older format that names a key
    of the cipher is shown with a text as its content exactly if its content is the base64 text
    of the digest, a slash, and the base64 text of the ciphertext, where digest and ciphertext
    are what sealing the text under this key gives, for the thirteen digits of the message's
    identifier and for its sender; of the rest only the sender's address may be left out. In
    either format decrypting opens the content first, and for each plaintext there is exactly
    one content that opens to it. -/
theorem content_has_one_spelling (m : Message) (hcut : m.truncated = false) (keys : KeyRing)
    (level : PrivilegeLevel) (key : Key) (hkey : key.isUsable = true) :
    (∀ keyId, m.encryptionKeyId = some (.unversioned keyId) → keys keyId = some key →
      m.id.text.length = 13 ∧
      (∀ t, (∃ shown, (m.decrypt keys level).result = .ok shown ∧ shown.content = t) ↔
        ∃ c, key.sealContent (Bytes.ofString m.id.text) (Bytes.ofString t)
            (Bytes.ofString m.sender.id) = .ok c ∧
          m.content = Base64.encode c.digest ++ "/" ++ Base64.encode c.ciphertext) ∧
      ∀ shown, (m.decrypt keys level).result = .ok shown →
        shown = { m with sender := m.sender.shownAt level, content := shown.content }) ∧
    ∀ keyId, m.encryptionKeyId = some keyId → keys keyId.keyId = some key →
      (∀ s, ({ m with content := s }.decrypt keys level).result =
        { m with content := s }.openedWith key >>=
          ({ m with content := s }.shownAt level).withPlaintext level keyId) ∧
      ∀ plaintext, ∃! s, { m with content := s }.openedWith key = .ok plaintext := by
  refine ⟨fun keyId hname hlookup => ⟨m.id.length_text, fun t => ?_, fun shown hshown => ?_⟩,
    fun keyId hname hlookup => ⟨fun s => ?_, existsUnique_content m hkey⟩⟩
  · simp only [result_decrypt_unversioned_eq_ok_iff hname hcut hlookup]
    constructor
    · rintro ⟨_, ⟨t, hseals, rfl⟩, rfl⟩
      exact hseals
    · intro hseals
      exact ⟨_, ⟨t, hseals, rfl⟩, rfl⟩
  · obtain ⟨t, -, rfl⟩ := (result_decrypt_unversioned_eq_ok_iff hname hcut hlookup).mp hshown
    rfl
  · simp only [result_decrypt, hname, hcut, hlookup, Bool.false_eq_true, if_false]

/-- The example message in the older format: one content is shown as a greeting, and no other.
    In the newer format one content opens to the same bytes. -/
theorem content_has_one_spelling_example :
    let older : Message := { exampleMessage with encryptionKeyId := some (.unversioned ⟨"k1"⟩) }
    let newer : Message := { exampleMessage with encryptionKeyId := some (.v1 ⟨"k1"⟩) }
    (∃ content, ({ older with content := content }.decrypt exampleKeys .general).result
        = .ok { older with content := "hello" } ∧
      ∀ other, other ≠ content → ∀ shown,
        ({ older with content := other }.decrypt exampleKeys .general).result = .ok shown →
          shown.content ≠ "hello") ∧
    ∃! s, { newer with content := s }.openedWith exampleKey = .ok (Bytes.ofString "hello") := by
  intro older newer
  have hlookup : exampleKeys ⟨"k1"⟩ = some exampleKey := rfl
  obtain ⟨-, hnewer⟩ :=
    content_has_one_spelling newer rfl exampleKeys .general exampleKey rfl
  refine ⟨?_, (hnewer (.v1 ⟨"k1"⟩) rfl hlookup).2 _⟩
  obtain ⟨c, hseal⟩ := Key.exists_sealContent_of_isUsable (rfl : exampleKey.isUsable = true)
    (Bytes.ofString older.id.text) (Bytes.ofString "hello") (Bytes.ofString older.sender.id)
  have hall := fun content => (content_has_one_spelling { older with content := content } rfl
    exampleKeys .general exampleKey rfl).1 ⟨"k1"⟩ rfl hlookup
  obtain ⟨-, hshows, hrest⟩ := hall c.text
  obtain ⟨shown, hshown, hcontent⟩ := (hshows "hello").mpr ⟨c, hseal, rfl⟩
  refine ⟨c.text, ?_, fun other hother shown hshown hcontent => hother ?_⟩
  · rw [hshown, hrest shown hshown, hcontent]
    rfl
  · -- What is shown as the greeting is sealed like the content that is there already.
    obtain ⟨c', hseal', rfl⟩ := ((hall other).2.1 "hello").mp ⟨shown, hshown, hcontent⟩
    obtain rfl : c = c' := Except.ok.inj (hseal.symm.trans hseal')
    rfl

end ChatKeys.Message
