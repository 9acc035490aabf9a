/-
  ChatKeys.Proofs.Capability.Answers

  Everything that redeeming a capability answers, and when.

  Four questions are asked one after the other: whether the recipient key can be used, whether
  the identifier is the text of a vector, whether the payload is sealed under this key with this
  vector, and only then what is in it.  `Capability.Answers` has one rule for each way in which
  this ends.  Its rules speak of what is written and sealed, not of how it is read and opened.

    * `exists_answers`, `redeem_of_answers` — one of the rules always applies, and redeeming
      follows it; so redeeming is what the rules say (`redeem_eq_iff`);
    * `issue_redeem_exact` — so what was issued is redeemed, also after it was stored, and of
      anything else the first question that is answered with no is the one that is told.
-/
import ChatKeys.Proofs.Capability

namespace ChatKeys

open Json

theorem KeyType.size_eq (type : KeyType) : type.size = keySize := by
  cases type <;> rfl

/-- A key is no key of the cipher because of its type, or else because it is wrapped. -/
theorem Key.cipherSecret_eq_error_iff {k : Key} {e : KeyError} :
    k.cipherSecret = .error e ↔
      k.type.isSymmetric = false ∧ e = .incompatibleType .xchacha20poly1305 k.type ∨
        k.type.isSymmetric = true ∧ k.isEncrypted = true ∧ e = .mustBeDecrypted := by
  rw [cipherSecret, secret, isEncrypted]
  cases k.type.isSymmetric with
  | false => simp only [Bool.false_eq_true, if_false, Except.error.injEq, true_and, false_and,
      or_false, eq_comm]
  | true =>
    cases k.material with
    | plain secret => simp
    | wrapped ciphertext => simp only [if_true, Except.error.injEq, reduceCtorEq, true_and,
        false_and, false_or, eq_comm]

namespace Capability

variable {c : Capability} {recipient : Key} {answer : Except Error Key}

/-- The capability that seals a document with a secret and a vector. -/
def sealing (key : KeyBytes) (iv document : Bytes) : Capability where
  id := Base64.encode iv
  payload := XChaCha20Poly1305.wrap key.bytes iv associatedData document

/-- The capability is what comes of sealing the document to the recipient with some vector. -/
def SealedFor (c : Capability) (recipient : Key) (document : Bytes) : Prop :=
  ∃ key iv, recipient.cipherSecret = .ok key ∧ iv.length = ivSize ∧ c = sealing key iv document

/-- What is answered to a recipient key that redeems a capability. -/
inductive Answers (c : Capability) (recipient : Key) : Except Error Key → Prop where
  /-- The recipient key is of another type than the cipher's. -/
  | incompatible : recipient.type.isSymmetric = false →
      Answers c recipient
        (.error (.keyState (.incompatibleType .xchacha20poly1305 recipient.type)))
  /-- The recipient key is of the right type, but wrapped. -/
  | wrapped : recipient.type.isSymmetric = true → recipient.isEncrypted = true →
      Answers c recipient (.error (.keyState .mustBeDecrypted))
  /-- The identifier is the text of no bytes. -/
  | identifier : recipient.isUsable = true → (∀ b, c.id ≠ Base64.encode b) →
      Answers c recipient (.error (.corrupted .capabilityId))
  /-- The identifier is the text of too many or too few bytes. -/
  | vector {b : Bytes} : recipient.isUsable = true → c.id = Base64.encode b →
      b.length ≠ ivSize → Answers c recipient (.error (.corrupted (.capabilityIv b.length)))
  /-- The payload is not sealed to the recipient with the vector. -/
  | unsealed {iv : Bytes} : recipient.isUsable = true → c.id = Base64.encode iv →
      iv.length = ivSize → (∀ document, ¬ c.SealedFor recipient document) →
      Answers c recipient (.error .accessDenied)
  /-- What is sealed is no record of a key. -/
  | record {document : Bytes} {cause : Json.Error} : c.SealedFor recipient document →
      SharedKey.codec.decode document = .error cause →
      Answers c recipient (.error (.corrupted (.capabilityPayload cause)))
  /-- What is sealed is the record of a key of the wrong length. -/
  | length {document : Bytes} {shared : SharedKey} : c.SealedFor recipient document →
      SharedKey.codec.decode document = .ok shared → shared.bytes.length ≠ keySize →
      Answers c recipient (.error (.keyState (.invalidLength keySize shared.bytes.length)))
  /-- What is sealed is the record of a key. -/
  | key {document : Bytes} {type : KeyType} {secret : KeyBytes} :
      c.SealedFor recipient document →
      SharedKey.codec.decode document = .ok ⟨type, secret.bytes⟩ →
      Answers c recipient (.ok (.ofSecret type secret))

/-- What was issued is the record of the key, sealed. -/
theorem sealedFor_of_issue {iv : Bytes} {k : Key} (h : issue recipient iv k = .ok c) :
    ∃ secret, k.secret = .ok secret ∧ c.SealedFor recipient (recordBytes k.type secret) := by
  obtain ⟨key, secret, hkey, hiv, hsecret, rfl⟩ := issue_eq_ok_iff.1 h
  exact ⟨secret, hsecret, key, iv, hkey, hiv, rfl⟩

/-- One of the rules applies to every capability and recipient key. -/
theorem exists_answers (c : Capability) (recipient : Key) :
    ∃ answer, c.Answers recipient answer := by
  -- The four questions, in their order.
  cases hkey : recipient.cipherSecret with
  | error e =>
    rcases Key.cipherSecret_eq_error_iff.1 hkey with ⟨htype, -⟩ | ⟨htype, hwrapped, -⟩
    · exact ⟨_, .incompatible htype⟩
    · exact ⟨_, .wrapped htype hwrapped⟩
  | ok key =>
    have husable : recipient.isUsable = true := Key.isUsable_iff.2 ⟨key, hkey⟩
    by_cases hid : ∃ b, c.id = Base64.encode b
    · obtain ⟨iv, hid⟩ := hid
      by_cases hiv : iv.length = ivSize
      · by_cases hsealed : ∃ document, c.SealedFor recipient document
        · obtain ⟨document, hsealed⟩ := hsealed
          cases hdecode : SharedKey.codec.decode document with
          | error cause => exact ⟨_, .record hsealed hdecode⟩
          | ok shared =>
            by_cases hlength : shared.bytes.length = keySize
            · exact ⟨.ok (.ofSecret shared.type ⟨shared.bytes, hlength⟩), .key hsealed hdecode⟩
            · exact ⟨_, .length hsealed hdecode hlength⟩
        · exact ⟨_, .unsealed husable hid hiv (not_exists.1 hsealed)⟩
      · exact ⟨_, .vector husable hid hiv⟩
    · exact ⟨_, .identifier husable (not_exists.1 hid)⟩

/-- What redeeming answers to the recipient that a document was sealed to. -/
theorem redeem_of_sealedFor {document : Bytes} (h : c.SealedFor recipient document) :
    c.redeem recipient =
      match SharedKey.codec.decode document with
      | .error cause => .error (.corrupted (.capabilityPayload cause))
      | .ok shared => (Key.ofPlaintext shared.type shared.bytes).mapError .keyState := by
  obtain ⟨key, iv, hkey, hiv, rfl⟩ := h
  have hanswer := redeem_of_cipherSecret hkey hiv
    (XChaCha20Poly1305.wrap key.bytes iv associatedData document)
  rw [XChaCha20Poly1305.unwrap?_wrap] at hanswer
  exact hanswer

/-- Redeeming follows the rules. -/
theorem redeem_of_answers (h : c.Answers recipient answer) : c.redeem recipient = answer := by
  cases h with
  | incompatible htype =>
    rw [redeem, Key.cipherSecret_eq_error_iff.2 (.inl ⟨htype, rfl⟩)]
    rfl
  | wrapped htype hwrapped =>
    rw [redeem, Key.cipherSecret_eq_error_iff.2 (.inr ⟨htype, hwrapped, rfl⟩)]
    rfl
  | identifier husable hid =>
    obtain ⟨key, hkey⟩ := Key.isUsable_iff.1 husable
    rw [redeem, hkey, Base64.decode?_eq_none_iff.2 hid]
    rfl
  | @vector b husable hid hlength =>
    obtain ⟨key, hkey⟩ := Key.isUsable_iff.1 husable
    rw [redeem, hkey, hid, Base64.decode?_encode]
    exact if_pos hlength
  | @unsealed iv husable hid hiv hunsealed =>
    obtain ⟨key, hkey⟩ := Key.isUsable_iff.1 husable
    obtain ⟨id, payload⟩ := c
    obtain rfl : id = Base64.encode iv := hid
    rw [redeem_of_cipherSecret hkey hiv]
    cases hopen : XChaCha20Poly1305.unwrap? key.bytes iv associatedData payload with
    | none => rfl
    | some document =>
      -- What opens was sealed.
      obtain rfl := XChaCha20Poly1305.unwrap?_eq_some_iff.1 hopen
      exact absurd ⟨key, iv, hkey, hiv, rfl⟩ (hunsealed document)
  | record hsealed hdecode => rw [redeem_of_sealedFor hsealed, hdecode]
  | length hsealed hdecode hlength =>
    rw [redeem_of_sealedFor hsealed, hdecode]
    simp only [Key.ofPlaintext, dif_neg hlength, KeyType.size_eq]
    rfl
  | @key document type secret hsealed hdecode =>
    rw [redeem_of_sealedFor hsealed, hdecode]
    simp only [Key.ofPlaintext, dif_pos secret.length_bytes]
    rfl

/-- Redeeming answers what the rules say. -/
theorem redeem_eq_iff : c.redeem recipient = answer ↔ c.Answers recipient answer := by
  constructor
  · rintro rfl
    obtain ⟨answer, hanswer⟩ := exists_answers c recipient
    rw [redeem_of_answers hanswer]
    exact hanswer
  · exact redeem_of_answers

/-! ## Issuing and redeeming -/

/-- Issuing takes a key of the cipher for the recipient, a vector of the right size, and a key
    in the clear. -/
theorem exists_issue_iff {iv : Bytes} {k : Key} :
    (∃ c, issue recipient iv k = .ok c) ↔
      recipient.isUsable = true ∧ iv.length = ivSize ∧ k.isEncrypted = false := by
  constructor
  · rintro ⟨c, hc⟩
    obtain ⟨key, _, hkey, hiv, -, -⟩ := issue_eq_ok_iff.1 hc
    exact ⟨Key.isUsable_iff.2 ⟨key, hkey⟩, hiv, not_isEncrypted_of_issue hc⟩
  · rintro ⟨hrecipient, hiv, hk⟩
    exact exists_issue hrecipient hiv hk

/-- What was issued is redeemed to the key without its labels, and comes back from storage. -/
theorem redeem_reload_of_issue {iv : Bytes} {k : Key} (h : issue recipient iv k = .ok c) :
    ∃ secret, k.secret = .ok secret ∧ c.redeem recipient = .ok (.ofSecret k.type secret) ∧
      Capability.codec.reload c = some c := by
  obtain ⟨secret, hsecret, hsealed⟩ := sealedFor_of_issue h
  exact ⟨secret, hsecret, redeem_of_answers (.key hsealed (decode_recordBytes k.type secret)),
    (Capability.restores c).reload_eq⟩

/-- A recipient key is turned away for its own state exactly if it is of no use. -/
theorem redeem_unusable_iff :
    (c.redeem recipient =
          .error (.keyState (.incompatibleType .xchacha20poly1305 recipient.type)) ∨
        c.redeem recipient = .error (.keyState .mustBeDecrypted)) ↔
      recipient.isUsable = false := by
  rw [redeem_eq_iff, redeem_eq_iff, Key.isUsable]
  constructor
  · rintro (hanswer | hanswer)
    · cases hanswer with
      | incompatible htype => rw [htype]; rfl
    · cases hanswer with
      | wrapped htype hwrapped => rw [htype, hwrapped]; rfl
  · intro h
    cases htype : recipient.type.isSymmetric with
    | false => exact .inl (.incompatible htype)
    | true =>
      rw [htype] at h
      exact .inr (.wrapped htype (by simpa using h))

/-- An identifier is blamed exactly if it is not the text of a vector. -/
theorem redeem_identifier_iff (husable : recipient.isUsable = true) :
    (c.redeem recipient = .error (.corrupted .capabilityId) ∨
        ∃ n, c.redeem recipient = .error (.corrupted (.capabilityIv n))) ↔
      ∀ iv, iv.length = ivSize → c.id ≠ Base64.encode iv := by
  simp only [redeem_eq_iff]
  constructor
  · rintro (hanswer | ⟨n, hanswer⟩) iv hiv hid
    · cases hanswer with
      | identifier _ hnone => exact hnone iv hid
    · cases hanswer with
      | vector _ hb hlength =>
        obtain rfl := Base64.encode_inj.1 (hb.symm.trans hid)
        exact hlength hiv
  · intro h
    by_cases hid : ∃ b, c.id = Base64.encode b
    · obtain ⟨b, hb⟩ := hid
      exact .inr ⟨b.length, .vector husable hb fun hlength => h b hlength hb⟩
    · exact .inl (.identifier husable (not_exists.1 hid))

/-- Access is denied exactly if the payload is not sealed to the recipient with the vector. -/
theorem redeem_denied_iff (husable : recipient.isUsable = true) {iv : Bytes}
    (hiv : iv.length = ivSize) (hid : c.id = Base64.encode iv) :
    c.redeem recipient = .error .accessDenied ↔ ∀ document, ¬ c.SealedFor recipient document := by
  rw [redeem_eq_iff]
  constructor
  · intro hanswer
    cases hanswer with
    | unsealed _ _ _ hunsealed => exact hunsealed
  · exact .unsealed husable hid hiv

/-- A capability hands over exactly the sealed key. To whom and with which vector a key can be
    issued depends on nothing but the state of the two keys and the size of the vector, and
    whoever has the recipient key, or the passcode, gets type and secret of the key back, also
    from the stored capability. Of any capability whatsoever, redeeming answers by the rules of
    `Answers`: an unusable recipient key is told first, then an identifier that is not the text
    of a vector, then a payload that is not sealed, and nothing is said of the record before.
    No key comes out that has not the size of a key. -/
theorem issue_redeem_exact :
    (∀ (recipient : Key) (iv : Bytes) (k : Key),
      ((∃ c, issue recipient iv k = .ok c) ↔
        recipient.isUsable = true ∧ iv.length = 24 ∧ k.isEncrypted = false) ∧
      ∀ c, issue recipient iv k = .ok c → ∃ secret, k.secret = .ok secret ∧
        c.redeem recipient = .ok (.ofSecret k.type secret) ∧
        Capability.codec.reload c = some c) ∧
    (∀ (passcode salt : Bytes) (kdf : KdfParams) (iv : Bytes) (k : Key),
      ((∃ c, issueForPasscode passcode salt kdf iv k = .ok c) ↔
        iv.length = 24 ∧ k.isEncrypted = false) ∧
      ∀ c, issueForPasscode passcode salt kdf iv k = .ok c → ∃ secret, k.secret = .ok secret ∧
        c.redeemWithPasscode passcode salt kdf = .ok (.ofSecret k.type secret) ∧
        Capability.codec.reload c = some c) ∧
    ∀ (c : Capability) (recipient : Key),
      (∀ answer, c.redeem recipient = answer ↔ c.Answers recipient answer) ∧
      ((c.redeem recipient =
            .error (.keyState (.incompatibleType .xchacha20poly1305 recipient.type)) ∨
          c.redeem recipient = .error (.keyState .mustBeDecrypted)) ↔
        recipient.isUsable = false) ∧
      (recipient.isUsable = true →
        ((c.redeem recipient = .error (.corrupted .capabilityId) ∨
            ∃ n, c.redeem recipient = .error (.corrupted (.capabilityIv n))) ↔
          ∀ iv, iv.length = 24 → c.id ≠ Base64.encode iv) ∧
        ∀ iv, iv.length = 24 → c.id = Base64.encode iv →
          (c.redeem recipient = .error .accessDenied ↔
            ∀ document, ¬ c.SealedFor recipient document)) ∧
      ∀ k, c.redeem recipient = .ok k →
        ∃ secret, k = .ofSecret k.type secret ∧ secret.bytes.length = 32 := by
  refine ⟨fun recipient iv k => ⟨exists_issue_iff, fun c => redeem_reload_of_issue⟩,
    fun passcode salt kdf iv k => ⟨?_, fun c => redeem_reload_of_issue⟩, fun c recipient =>
      ⟨fun answer => redeem_eq_iff, redeem_unusable_iff, fun husable =>
        ⟨redeem_identifier_iff husable, fun iv => redeem_denied_iff husable⟩, fun k hk => ?_⟩⟩
  · -- What a passcode gives is always a key of the cipher.
    have husable : (Key.ofPasscode passcode salt kdf).isUsable = true := rfl
    exact exists_issue_iff.trans (and_iff_right husable)
  · cases redeem_eq_iff.1 hk with
    | @key document type secret _ _ => exact ⟨secret, rfl, secret.length_bytes⟩

/-- The secret half of a pair is issued to the example key and redeemed with it, and likewise
    with a passcode. With itself as the recipient key the capability is turned away, with an
    empty payload it is denied, and with an empty identifier that is blamed. -/
theorem issue_redeem_exact_example :
    let secret : KeyBytes := ⟨List.replicate keySize 7, rfl⟩
    let k : Key := .ofSecret .x25519 secret
    let iv : Bytes := List.replicate ivSize 0
    (∃ c, issue exampleKey iv k = .ok c ∧ c.redeem exampleKey = .ok k ∧
      Capability.codec.reload c = some c ∧
      c.redeem k = .error (.keyState (.incompatibleType .xchacha20poly1305 .x25519)) ∧
      redeem { c with payload := [] } exampleKey = .error .accessDenied ∧
      redeem ⟨"", c.payload⟩ exampleKey = .error (.corrupted (.capabilityIv 0))) ∧
    ∃ c, issueForPasscode [1, 2, 3] [4] .standard iv k = .ok c ∧
      c.redeemWithPasscode [1, 2, 3] [4] .standard = .ok k ∧
      Capability.codec.reload c = some c := by
  intro secret k iv
  obtain ⟨hkeys, hpasscodes, hall⟩ := issue_redeem_exact
  constructor
  · obtain ⟨hissue, hredeem⟩ := hkeys exampleKey iv k
    obtain ⟨c, hc⟩ := hissue.2 ⟨rfl, rfl, rfl⟩
    obtain ⟨_, ⟨⟩, hopen, hreload⟩ := hredeem c hc
    obtain ⟨_, _, -, -, -, hcontent⟩ := issue_eq_ok_iff.1 hc
    have hid : c.id = Base64.encode iv := congrArg Capability.id hcontent
    refine ⟨c, hc, hopen, hreload, ?_, ?_, ?_⟩
    · exact ((hall c k).1 _).2 (.incompatible rfl)
    · -- Nothing is sealed to an empty payload, since there is a tag at least.
      obtain ⟨-, -, husable, -⟩ := hall { c with payload := [] } exampleKey
      refine ((husable rfl).2 iv rfl hid).2 ?_
      rintro document ⟨key, _, -, -, hempty⟩
      have hlength := congrArg (fun c => c.payload.length) hempty
      simp [sealing, XChaCha20Poly1305.tagSize] at hlength
    · exact ((hall ⟨"", c.payload⟩ exampleKey).1 _).2 (.vector (b := []) rfl rfl (by decide))
  · obtain ⟨hissue, hredeem⟩ := hpasscodes [1, 2, 3] [4] .standard iv k
    obtain ⟨c, hc⟩ := hissue.2 ⟨rfl, rfl⟩
    obtain ⟨_, ⟨⟩, hopen, hreload⟩ := hredeem c hc
    exact ⟨c, hc, hopen, hreload⟩

end Capability

end ChatKeys
