/-
  ChatKeys.Proofs.Message.Hiding

  What an encrypted message shows to those who do not have its key.

    * `SameOutside` — what two messages have in common if all that stays in the clear is equal;
    * `SameOutside.outside_encrypt`, `contentLength_encrypt` — of such messages the encrypted ones
      differ in their contents at most, and the contents are equally long if the sealed records
      are;
    * `encrypt_eq_encrypt_iff` — they are equal exactly if the records are, so that the sender's
      address is left out of what is sent, but nothing else of the sender is.

  The length of the content is that of the record, rounded up to whole groups of three bytes
  (`length_content_of_encrypt`).
-/
import ChatKeys.Proofs.Message.Sealing
import ChatKeys.Proofs.Text.Utf8

namespace ChatKeys

open Json

/-- The bytes of encrypted content: four for every three bytes of either part, and the slash. -/
theorem SealedContent.length_text (c : SealedContent) :
    (Bytes.ofString c.text).length =
      4 * ((c.digest.length + 2) / 3) + 1 + 4 * ((c.ciphertext.length + 2) / 3) := by
  have hascii : ∀ x ∈ c.text.toList, x.toNat < 0x80 := by
    intro x hx
    rw [toList_text, List.mem_append, List.mem_cons] at hx
    rcases hx with hdigest | rfl | hciphertext
    · exact Base64.toNat_lt_of_mem_encodeChars hdigest
    · decide
    · exact Base64.toNat_lt_of_mem_encodeChars hciphertext
  rw [Bytes.ofString_eq_ofChars, Bytes.length_ofChars_ascii hascii, toList_text,
    List.length_append, List.length_cons, Base64.length_encodeChars, Base64.length_encodeChars]
  omega

namespace Message

variable {m m' sent : Message} {keyId : KeyId} {key : Key}

/-- The message without its content. -/
def outside (m : Message) : Message := { m with content := "" }

/-- The bytes of a message's content. -/
def contentLength (m : Message) : Nat := (Bytes.ofString m.content).length

/-- Two messages agree in all that is sent in the clear. -/
structure SameOutside (m m' : Message) : Prop where
  id : m.id = m'.id
  parent : m.parent = m'.parent
  time : m.time = m'.time
  truncated : m.truncated = m'.truncated
  senderId : m.sender.id = m'.sender.id
  sessionId : m.sender.sessionId = m'.sender.sessionId

/-! ## What is sent -/

/-- A key that cannot be used is refused alike for all messages. -/
theorem exists_error_of_not_isUsable (hkey : key.isUsable = false) (keyId : KeyId) :
    ∃ e, ∀ m : Message, m.encrypt keyId key = .error e := by
  cases hwrapped : key.isEncrypted with
  | true =>
    refine ⟨.mustBeDecrypted, fun m => ?_⟩
    rw [encrypt, hwrapped]
    rfl
  | false =>
    cases hsecret : key.cipherSecret with
    | ok secret =>
      have husable : key.isUsable = true := Key.isUsable_iff.mpr ⟨secret, hsecret⟩
      rw [hkey] at husable
      cases husable
    | error e =>
      refine ⟨e, fun m => ?_⟩
      simp only [encrypt, hwrapped, Key.sealContent, hsecret]
      rfl

/-- What is sent is the message with its record sealed, in place of sender and content. -/
theorem encrypt_eq_ok_iff (hkey : key.isUsable = true) :
    m.encrypt keyId key = .ok sent ↔
      ∃ c, key.sealContent m.nonceMaterial m.recordBytes m.associatedData = .ok c ∧
        sent = m.withSealed (.v1 keyId) c := by
  obtain ⟨c, hseal, hencrypt⟩ := encrypt_of_isUsable hkey m keyId
  rw [hencrypt, hseal]
  simp only [Except.ok.injEq, exists_eq_left', eq_comm]

theorem isUsable_of_encrypt (h : m.encrypt keyId key = .ok sent) : key.isUsable = true := by
  by_contra hne
  obtain ⟨e, he⟩ := exists_error_of_not_isUsable (Bool.eq_false_iff.mpr hne) keyId
  rw [he m] at h
  cases h

/-- All that is sent of the sender is the identifier and the session's. -/
theorem sender_of_encrypt (h : m.encrypt keyId key = .ok sent) : sent.sender = m.outerSender := by
  obtain ⟨c, -, rfl⟩ := (encrypt_eq_ok_iff (isUsable_of_encrypt h)).mp h
  rfl

/-- The length of the content tells that of the record, up to two bytes. -/
theorem length_content_of_encrypt (h : m.encrypt keyId key = .ok sent) :
    sent.contentLength = 25 + 4 * ((m.recordBytes.length + 2) / 3) := by
  have hkey := isUsable_of_encrypt h
  obtain ⟨c, hseal, rfl⟩ := (encrypt_eq_ok_iff hkey).mp h
  obtain ⟨secret, hsecret⟩ := Key.isUsable_iff.mp hkey
  rw [Key.sealContent_of_cipherSecret hsecret] at hseal
  obtain rfl := Except.ok.inj hseal
  show (Bytes.ofString (SealedContent.text _)).length = _
  rw [SealedContent.length_text, XChaCha20Poly1305.length_tag, XChaCha20Poly1305.length_encrypt,
    XChaCha20Poly1305.tagSize]

/-! ## Two messages -/

/-- A key that cannot be used is refused alike for both, so that two answers are compared by what
    is sent. -/
theorem map_encrypt_eq {α : Type} {f : Message → α}
    (h : ∀ sent sent', m.encrypt keyId key = .ok sent → m'.encrypt keyId key = .ok sent' →
      f sent = f sent') :
    (m.encrypt keyId key).map f = (m'.encrypt keyId key).map f := by
  cases hkey : key.isUsable with
  | false =>
    obtain ⟨e, he⟩ := exists_error_of_not_isUsable hkey keyId
    rw [he m, he m']
  | true =>
    obtain ⟨c, -, hc⟩ := encrypt_of_isUsable hkey m keyId
    obtain ⟨c', -, hc'⟩ := encrypt_of_isUsable hkey m' keyId
    rw [hc, hc', Except.map, Except.map, h _ _ hc hc']

/-- Messages that are alike outside are sent alike up to their contents. -/
theorem SameOutside.outside_encrypt (h : m.SameOutside m') (keyId : KeyId) (key : Key) :
    (m.encrypt keyId key).map outside = (m'.encrypt keyId key).map outside := by
  refine map_encrypt_eq fun sent sent' hsent hsent' => ?_
  have hkey := isUsable_of_encrypt hsent
  obtain ⟨c, -, rfl⟩ := (encrypt_eq_ok_iff hkey).mp hsent
  obtain ⟨c', -, rfl⟩ := (encrypt_eq_ok_iff hkey).mp hsent'
  -- The six fields in which the messages agree are all that is left of them.
  simp only [outside, withSealed, outerSender, h.id, h.parent, h.time, h.truncated, h.senderId,
    h.sessionId]

/-- Records of the same length are sent as contents of the same length. -/
theorem contentLength_encrypt (h : m.recordBytes.length = m'.recordBytes.length) (keyId : KeyId)
    (key : Key) :
    (m.encrypt keyId key).map contentLength = (m'.encrypt keyId key).map contentLength := by
  refine map_encrypt_eq fun sent sent' hsent hsent' => ?_
  rw [length_content_of_encrypt hsent, length_content_of_encrypt hsent', h]

/-- The bytes of a record tell the record. -/
theorem recordBytes_inj : m.recordBytes = m'.recordBytes ↔ m.sealedRecord = m'.sealedRecord := by
  constructor
  · intro h
    have hdecode := (SealedRecord.restores m.sealedRecord).decode_text
    have hdecode' := (SealedRecord.restores m'.sealedRecord).decode_text
    rw [show Bytes.ofString (SealedRecord.codec.text m.sealedRecord) = m'.recordBytes from h,
      show m'.recordBytes = Bytes.ofString (SealedRecord.codec.text m'.sealedRecord) from rfl,
      hdecode'] at hdecode
    exact (Except.ok.inj hdecode).symm
  · intro h
    rw [recordBytes, recordBytes, h]

/-- Two messages are sent alike exactly if they are alike outside and their records are equal:
    of a message nothing is lost but the address of its sender, and the name of the key that it
    was encrypted under before. -/
theorem encrypt_eq_encrypt_iff (hkey : key.isUsable = true) (m m' : Message) (keyId : KeyId) :
    m.encrypt keyId key = m'.encrypt keyId key ↔
      m.SameOutside m' ∧ m.sealedRecord = m'.sealedRecord := by
  obtain ⟨c, hseal, hc⟩ := encrypt_of_isUsable hkey m keyId
  obtain ⟨c', hseal', hc'⟩ := encrypt_of_isUsable hkey m' keyId
  rw [hc, hc', Except.ok.injEq]
  constructor
  · intro h
    have houtside : m.SameOutside m' :=
      { id := congrArg (fun sent => sent.id) h
        parent := congrArg (fun sent => sent.parent) h
        time := congrArg (fun sent => sent.time) h
        truncated := congrArg (fun sent => sent.truncated) h
        senderId := congrArg (fun sent => sent.sender.id) h
        sessionId := congrArg (fun sent => sent.sender.sessionId) h }
    have hcontent : c = c' := SealedContent.text_inj.mp (congrArg Message.content h)
    -- The same content opens to one plaintext, for the same identifier and sender.
    have hopen := Key.openContent_eq_ok_iff.mpr hseal
    have hopen' := Key.openContent_eq_ok_iff.mpr hseal'
    rw [nonceMaterial, associatedData, houtside.id, houtside.senderId, hcontent] at hopen
    have hbytes : m.recordBytes = m'.recordBytes := Except.ok.inj (hopen.symm.trans hopen')
    exact ⟨houtside, recordBytes_inj.mp hbytes⟩
  · rintro ⟨houtside, hrecord⟩
    have hbytes := recordBytes_inj.mpr hrecord
    rw [nonceMaterial, associatedData, houtside.id, houtside.senderId, hbytes] at hseal
    obtain rfl : c = c' := Except.ok.inj (hseal.symm.trans hseal')
    simp only [withSealed, outerSender, houtside.id, houtside.parent, houtside.time,
      houtside.truncated, houtside.senderId, houtside.sessionId]

/-- Encrypting a message hides what it should. The address of its sender has no influence on what
    is sent. Of two messages that agree in what stays in the clear and whose records are equally
    long, the encrypted ones, or the refusals of the key, agree in everything but the content, and
    the contents are equally long. The sender of an encrypted message is blank except for the two
    identifiers. And with a usable key nothing else is left out: messages that differ in what
    stays in the clear, or in their records, are not sent alike. -/
theorem encrypt_hides :
    (∀ (m : Message) (address : Option String) (keyId : KeyId) (key : Key),
      encrypt { m with sender := { m.sender with clientAddress := address } } keyId key =
        m.encrypt keyId key) ∧
    (∀ (m m' : Message) (keyId : KeyId) (key : Key), m.SameOutside m' →
      m.recordBytes.length = m'.recordBytes.length →
        (m.encrypt keyId key).map outside = (m'.encrypt keyId key).map outside ∧
        (m.encrypt keyId key).map contentLength = (m'.encrypt keyId key).map contentLength) ∧
    (∀ (m : Message) (keyId : KeyId) (key : Key) (sent : Message),
      m.encrypt keyId key = .ok sent → sent.sender =
        { id := m.sender.id, name := "", serverId := "", serverEra := "",
          sessionId := m.sender.sessionId, clientAddress := none, isStaff := false,
          isManager := false }) ∧
    ∀ (m m' : Message) (keyId : KeyId) (key : Key), key.isUsable = true →
      (m.encrypt keyId key = m'.encrypt keyId key ↔
        m.SameOutside m' ∧ m.sealedRecord = m'.sealedRecord) :=
  ⟨fun _ _ _ _ => rfl,
    fun _ _ keyId key houtside hlength =>
      ⟨houtside.outside_encrypt keyId key, contentLength_encrypt hlength keyId key⟩,
    fun _ _ _ _ h => sender_of_encrypt h,
    fun m m' keyId _ hkey => encrypt_eq_encrypt_iff hkey m m' keyId⟩

/-- A short message of another participant, with an address, in a session that looks the same
    from outside. -/
def exampleOther : Message := { exampleMessage with
  sender := { exampleMessage.sender with name := "Clara", clientAddress := some "10.0.0.1" }
  content := "howdy" }

/-- The example message and the other one are not sent alike, but differ in their contents alone,
    which are equally long. Neither shows a name, and without the address the other one is sent
    as it is with it. -/
theorem encrypt_hides_example :
    ∃ sent other, exampleMessage.encrypt ⟨"k1"⟩ exampleKey = .ok sent ∧
      exampleOther.encrypt ⟨"k1"⟩ exampleKey = .ok other ∧ sent ≠ other ∧
      sent.outside = other.outside ∧ sent.contentLength = other.contentLength ∧
      sent.sender.name = "" ∧ other.sender.name = "" ∧
      encrypt { exampleOther with
        sender := { exampleOther.sender with clientAddress := none } } ⟨"k1"⟩ exampleKey
          = .ok other := by
  obtain ⟨haddress, hpair, hsender, hexact⟩ := encrypt_hides
  have hkey : exampleKey.isUsable = true := rfl
  obtain ⟨_, -, hsent⟩ := encrypt_of_isUsable hkey exampleMessage ⟨"k1"⟩
  obtain ⟨_, -, hother⟩ := encrypt_of_isUsable hkey exampleOther ⟨"k1"⟩
  have houtside : exampleMessage.SameOutside exampleOther := ⟨rfl, rfl, rfl, rfl, rfl, rfl⟩
  have hlength : exampleMessage.recordBytes.length = exampleOther.recordBytes.length := by
    decide +kernel
  obtain ⟨hequal, hcontents⟩ := hpair _ _ ⟨"k1"⟩ exampleKey houtside hlength
  have hdiffer : exampleMessage.sealedRecord ≠ exampleOther.sealedRecord := by decide
  rw [hsent, hother] at hequal hcontents
  refine ⟨_, _, hsent, hother, fun he => hdiffer ?_, Except.ok.inj hequal, Except.ok.inj hcontents,
    ?_, ?_, (haddress exampleOther none ⟨"k1"⟩ exampleKey).trans hother⟩
  · exact ((hexact _ _ ⟨"k1"⟩ exampleKey hkey).mp (hsent.trans (he ▸ hother.symm))).2
  · rw [hsender _ _ _ _ hsent]
  · rw [hsender _ _ _ _ hother]

end Message

end ChatKeys
