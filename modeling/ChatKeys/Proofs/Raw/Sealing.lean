/-
  ChatKeys.Proofs.Raw.Sealing

  What raw keys are used for besides content: key pairs, messages, and capabilities.  Reset
  requests have keys of any length in any case.

  With raw keys that come from a key everything comes out as it does with these, as long as what is
  encrypted or decrypted is short enough for the cipher.  A key is, and so is the record of one
  (`Capability.length_recordBytes_lt`).

    * `KeyPair.agreesRaw` — key pairs;
    * `Message.encrypt_raw` — messages;
    * `Capability.issue_raw`, `Capability.redeem_raw` — capabilities;
    * `Key.agreesRaw` — all that is done with one key;
    * `ResetRequest.mac?_eq` — a reset request has a code whatever its key is;
    * `Capability.redeemRaw_eq_invalidLength_iff` — when a capability is said to hold a key of the
      wrong length.
-/
import ChatKeys.Proofs.Message.Sealing
import ChatKeys.Proofs.Raw.Content
import ChatKeys.Reset

namespace ChatKeys

open Json

/-! ## Key pairs -/

/-- A key pair with a secret of any length. -/
structure RawPair where
  publicKey : Bytes
  privateKey : RawKey

namespace RawPair

def ofSecret (secret : Bytes) : Except KeyError RawPair := do
  if secret.length ≠ keySize then throw (.invalidLength keySize secret.length)
  let privateKey ← RawKey.ofPlaintext .x25519 secret
  return { publicKey := X25519.publicKey secret, privateKey := privateKey }

def withIv (p : RawPair) (iv : Bytes) : RawPair :=
  { p with privateKey := p.privateKey.withIv iv }

def wrap (p : RawPair) (outer : RawKey) : Except (Fault KeyError) RawPair := do
  return { p with privateKey := ← p.privateKey.wrap outer }

def unwrap (p : RawPair) (outer : RawKey) : Except Error RawPair := do
  return { p with privateKey := ← p.privateKey.unwrap outer }

variable {p q : RawPair} {outer : RawKey}

theorem isSized_of_wrap (h : p.wrap outer = .ok q) : q.privateKey.IsSized := by
  obtain ⟨key, hkey, h⟩ := bind_eq_ok_iff.mp h
  obtain rfl := pure_eq_ok_iff.mp h
  exact RawKey.isSized_of_wrap hkey

/-- A pair opens or not as its private half does. -/
theorem unwrap_eq_error_iff {e : Error} :
    p.unwrap outer = .error e ↔ p.privateKey.unwrap outer = .error e := by
  rw [unwrap]
  cases p.privateKey.unwrap outer with
  | error cause =>
    show (Except.error cause : Except Error RawPair) = .error e ↔ _
    rw [Except.error.injEq, Except.error.injEq]
  | ok k => exact iff_of_false nofun nofun

theorem isSized_of_unwrap (h : p.unwrap outer = .ok q) : q.privateKey.IsSized := by
  obtain ⟨key, hkey, h⟩ := bind_eq_ok_iff.mp h
  obtain rfl := pure_eq_ok_iff.mp h
  exact RawKey.isSized_of_unwrap hkey

end RawPair

namespace KeyPair

def raw (p : KeyPair) : RawPair where
  publicKey := p.publicKey
  privateKey := p.privateKey.raw

theorem ofSecret_raw (secret : Bytes) : RawPair.ofSecret secret = (ofSecret secret).map raw := by
  rw [RawPair.ofSecret, ofSecret, Key.ofPlaintext_raw, Key.ofPlaintext]
  by_cases h : secret.length = keySize
  · rw [if_neg (not_not_intro h), dif_pos h]
    rfl
  · rw [if_pos h, dif_neg h]
    rfl

theorem withIv_raw (p : KeyPair) (iv : Bytes) : (p.withIv iv).raw = p.raw.withIv iv := rfl

theorem wrap_raw (p : KeyPair) (outer : Key) :
    p.raw.wrap outer.raw = Fault.embed raw (p.wrap outer) := by
  have hkey := p.privateKey.wrap_raw outer
  rw [RawPair.wrap, wrap]
  show (p.privateKey.raw.wrap outer.raw >>= _) = _
  rw [hkey]
  cases p.privateKey.wrap outer with
  | error e => rfl
  | ok key => rfl

theorem unwrap_raw {p : KeyPair} (outer : Key)
    (h : ∀ ciphertext, p.privateKey.material = .wrapped ciphertext →
      ciphertext.length - XChaCha20Poly1305.tagSize < XChaCha20Poly1305.textLimit) :
    p.raw.unwrap outer.raw = (p.unwrap outer).map raw := by
  have hkey := Key.unwrap_raw outer h
  rw [RawPair.unwrap, unwrap]
  show (p.privateKey.raw.unwrap outer.raw >>= _) = _
  rw [hkey]
  cases p.privateKey.unwrap outer with
  | error e => rfl
  | ok key => rfl

theorem raw_inj {p q : KeyPair} : p.raw = q.raw ↔ p = q := by
  constructor
  · intro h
    obtain ⟨publicKey, privateKey⟩ := p
    obtain ⟨publicKey', privateKey'⟩ := q
    obtain ⟨rfl, hkey⟩ := RawPair.mk.inj h
    obtain rfl : privateKey = privateKey' := Key.raw_inj.mp hkey
    rfl
  · rintro rfl
    rfl

/-- Whatever is done with a pair comes out as it does with the raw pair, where what is decrypted is
    short enough for the cipher. -/
structure AgreesRaw (p : KeyPair) : Prop where
  withIv : ∀ iv, (p.withIv iv).raw = p.raw.withIv iv
  wrap : ∀ outer : Key, p.raw.wrap outer.raw = Fault.embed raw (p.wrap outer)
  unwrap : ∀ outer : Key, (∀ ciphertext, p.privateKey.material = .wrapped ciphertext →
      ciphertext.length - XChaCha20Poly1305.tagSize < XChaCha20Poly1305.textLimit) →
    p.raw.unwrap outer.raw = (p.unwrap outer).map raw

theorem agreesRaw (p : KeyPair) : p.AgreesRaw where
  withIv := p.withIv_raw
  wrap := p.wrap_raw
  unwrap := unwrap_raw

/-- The raw pairs that come from a pair are those of the right size. -/
theorem exists_raw_iff {p : RawPair} : (∃ q : KeyPair, q.raw = p) ↔ p.privateKey.IsSized := by
  rw [← RawKey.exists_raw_iff]
  constructor
  · rintro ⟨q, rfl⟩
    exact ⟨q.privateKey, rfl⟩
  · rintro ⟨key, hkey⟩
    exact ⟨⟨p.publicKey, key⟩, by rw [raw, hkey]⟩

end KeyPair

/-! ## Messages -/

namespace Message

def encryptRaw (m : Message) (keyId : KeyId) (key : RawKey) : Except (Fault KeyError) Message := do
  if key.isEncrypted then throw (.error .mustBeDecrypted)
  match SealedRecord.codec.encode m.sealedRecord with
  | .error _ => throw .impossible
  | .ok text =>
    let content ← key.sealContent m.nonceMaterial (Bytes.ofString text) m.associatedData
    return { m with
      sender := m.outerSender
      content := content.text
      encryptionKeyId := some (.v1 keyId) }

/-- A message is encrypted as with a key of known size, if its record is short enough for the
    cipher; that it can be written at all is no question. -/
theorem encrypt_raw (m : Message) (keyId : KeyId) (key : Key)
    (h : m.recordBytes.length < XChaCha20Poly1305.textLimit) :
    m.encryptRaw keyId key.raw = Fault.embed (fun sent => sent) (m.encrypt keyId key) := by
  have hrecord : SealedRecord.codec.encode m.sealedRecord =
      .ok (SealedRecord.codec.text m.sealedRecord) :=
    (SealedRecord.restores m.sealedRecord).encode_eq
  have hcontent := key.sealContent_raw m.nonceMaterial m.associatedData h
  rw [recordBytes] at hcontent
  rw [encryptRaw, encrypt, Key.isEncrypted_raw, hrecord]
  simp only [hcontent]
  split
  · rfl
  · cases key.sealContent m.nonceMaterial (Bytes.ofString (SealedRecord.codec.text m.sealedRecord))
        m.associatedData with
    | error e => rfl
    | ok content => rfl

end Message

/-! ## Capabilities -/

namespace Capability

/-- The record of a key is short enough for the cipher. -/
theorem length_recordBytes_lt (type : KeyType) (secret : KeyBytes) :
    (recordBytes type secret).length < XChaCha20Poly1305.textLimit := by
  have hlabel : type.label.toList.length ≤ 17 := by
    cases type <;> decide
  have hsecret : (Base64.encode secret.bytes).toList.length = 44 := by
    rw [Base64.encode, String.toList_ofList, Base64.length_encodeChars, secret.length_bytes]
    rfl
  let text : List Char := (Value.object
    [("key_type", .string type.label), ("key", .string (Base64.encode secret.bytes))]).chars
  have htext : recordBytes type secret = Bytes.ofChars text := Bytes.ofString_ofList text
  have hlength : text.length ≤ 1000 := by
    have htype := length_stringChars_le type.label
    have hkey := length_stringChars_le (Base64.encode secret.bytes)
    have hnames : (stringChars "key_type").length = 10 ∧ (stringChars "key").length = 5 := by
      decide
    simp only [text, Value.chars, membersChars, List.length_append, List.length_cons,
      List.length_nil, hnames, if_true, Bool.false_eq_true, if_false]
    omega
  have hbytes := Bytes.length_ofChars_le text
  rw [htext, XChaCha20Poly1305.textLimit]
  omega

def issueRaw (recipient : RawKey) (iv : Bytes) (k : RawKey) :
    Except (Fault KeyError) Capability := do
  let key ← recipient.cipher
  if iv.length ≠ ivSize then throw (.error (.invalidIv ivSize iv.length))
  let secret ← k.plaintext
  match SharedKey.codec.encode ⟨k.type, secret⟩ with
  | .error _ => throw .impossible
  | .ok shared =>
    match XChaCha20Poly1305.wrapBelow? key iv associatedData (Bytes.ofString shared) with
    | none => throw .impossible
    | some payload => return { id := Base64.encode iv, payload := payload }

def issueForPasscodeRaw (passcode salt : Bytes) (kdf : KdfParams) (iv : Bytes) (k : RawKey) :
    Except (Fault KeyError) Capability := do
  issueRaw (← RawKey.ofPasscode passcode salt kdf) iv k

def redeemRaw (c : Capability) (recipient : RawKey) : Except Error RawKey := do
  let key ← recipient.cipher
  match Base64.decode? c.id with
  | none => throw (.corrupted .capabilityId)
  | some iv =>
    if iv.length ≠ ivSize then throw (.corrupted (.capabilityIv iv.length))
    match XChaCha20Poly1305.unwrapBelow? key iv associatedData c.payload with
    | none => throw .accessDenied
    | some plaintext =>
      match SharedKey.codec.decode plaintext with
      | .error cause => throw (.corrupted (.capabilityPayload cause))
      | .ok shared => RawKey.ofPlaintext shared.type shared.bytes

/-- A key whose size is right is issued as if it were known. -/
theorem issue_raw (recipient : Key) (iv : Bytes) (k : Key) :
    issueRaw recipient.raw iv k.raw = Fault.embed (fun c => c) (issue recipient iv k) := by
  have htype : k.raw.type = k.type := rfl
  rw [issueRaw, issue, Key.cipher_raw, Key.plaintext_raw, htype]
  cases recipient.cipherSecret with
  | error e => rfl
  | ok key =>
    by_cases hiv : iv.length = ivSize
    · simp only [if_neg (not_not_intro hiv)]
      cases k.secret with
      | error e => rfl
      | ok secret =>
        have hencode : SharedKey.codec.encode ⟨k.type, secret.bytes⟩ =
            .ok (SharedKey.codec.text ⟨k.type, secret.bytes⟩) :=
          (SharedKey.restores ⟨k.type, secret.bytes⟩).encode_eq
        have hwrap : XChaCha20Poly1305.wrapBelow? key.bytes iv associatedData
            (Bytes.ofString (SharedKey.codec.text ⟨k.type, secret.bytes⟩)) = some _ :=
          XChaCha20Poly1305.wrapBelow?_of_lt (length_recordBytes_lt k.type secret)
        simp only [Except.map, Fault.liftM_bind, hencode, hwrap]
        rfl
    · simp only [if_pos hiv]
      rfl

theorem issueForPasscode_raw (passcode salt : Bytes) (kdf : KdfParams) (iv : Bytes) (k : Key) :
    issueForPasscodeRaw passcode salt kdf iv k.raw =
      Fault.embed (fun c => c) (issueForPasscode passcode salt kdf iv k) := by
  rw [issueForPasscodeRaw, Key.ofPasscode_raw, issueForPasscode, ← issue_raw]
  rfl

variable {c : Capability} {recipient k : RawKey}

/-- The capability is what comes of sealing the document to the recipient with some vector. -/
def SealedForRaw (c : Capability) (recipient : RawKey) (document : Bytes) : Prop :=
  ∃ key iv, recipient.cipher = .ok key ∧ iv.length = ivSize ∧
    c = ⟨Base64.encode iv, XChaCha20Poly1305.wrap key iv associatedData document⟩

/-- What redeeming answers once the recipient key and the vector are known to be of use. -/
theorem redeemRaw_of_cipher {key iv : Bytes} (hkey : recipient.cipher = .ok key)
    (hiv : iv.length = ivSize) (payload : Bytes) :
    redeemRaw ⟨Base64.encode iv, payload⟩ recipient =
      match XChaCha20Poly1305.unwrapBelow? key iv associatedData payload with
      | none => .error .accessDenied
      | some plaintext =>
        match SharedKey.codec.decode plaintext with
        | .error cause => .error (.corrupted (.capabilityPayload cause))
        | .ok shared => (RawKey.ofPlaintext shared.type shared.bytes).mapError .keyState := by
  rw [redeemRaw, hkey]
  simp only [Base64.decode?_encode]
  show (if iv.length ≠ ivSize then _ else _) = _
  rw [if_neg (not_not_intro hiv)]
  rfl

/-- A capability whose payload is short enough for the cipher is redeemed as if the sizes of keys
    were known. -/
theorem redeem_raw (recipient : Key)
    (h : c.payload.length - XChaCha20Poly1305.tagSize < XChaCha20Poly1305.textLimit) :
    c.redeemRaw recipient.raw = (c.redeem recipient).map Key.raw := by
  cases hkey : recipient.cipherSecret with
  | error e =>
    rw [redeemRaw, redeem, Key.cipher_raw, hkey]
    rfl
  | ok key =>
    have hraw : recipient.raw.cipher = .ok key.bytes := Key.cipher_raw_of_cipherSecret hkey
    obtain ⟨id, payload⟩ := c
    cases hid : Base64.decode? id with
    | none =>
      rw [redeemRaw, redeem, hraw, hkey]
      simp only [hid]
      rfl
    | some iv =>
      obtain rfl := Base64.decode?_eq_some_iff.mp hid
      by_cases hiv : iv.length = ivSize
      · rw [redeemRaw_of_cipher hraw hiv, redeem_of_cipherSecret hkey hiv,
          XChaCha20Poly1305.unwrapBelow?, if_pos h]
        cases XChaCha20Poly1305.unwrap? key.bytes iv associatedData payload with
        | none => rfl
        | some document =>
          cases hdecode : SharedKey.codec.decode document with
          | error cause =>
            simp only [hdecode]
            rfl
          | ok shared =>
            simp only [hdecode, Key.ofPlaintext_raw]
            cases Key.ofPlaintext shared.type shared.bytes with
            | error e => rfl
            | ok k => rfl
      · rw [redeemRaw, redeem, hraw, hkey]
        simp only [hid]
        show (if iv.length ≠ ivSize then _ else _) =
          Except.map Key.raw (if iv.length ≠ ivSize then _ else _)
        rw [if_pos hiv, if_pos hiv]
        rfl

/-- Redeeming fails with the recipient key or with the identifier, unless both are of use. -/
theorem redeemRaw_cases (c : Capability) (recipient : RawKey) :
    (∃ cause, recipient.cipher = .error cause ∧
        c.redeemRaw recipient = .error (.keyState cause)) ∨
      (∃ cause, c.redeemRaw recipient = .error (.corrupted cause)) ∨
      ∃ key iv payload, recipient.cipher = .ok key ∧ iv.length = ivSize ∧
        c = ⟨Base64.encode iv, payload⟩ := by
  cases hkey : recipient.cipher with
  | error cause =>
    refine .inl ⟨cause, rfl, ?_⟩
    rw [redeemRaw, hkey]
    rfl
  | ok key =>
    obtain ⟨id, payload⟩ := c
    cases hid : Base64.decode? id with
    | none =>
      refine .inr (.inl ⟨.capabilityId, ?_⟩)
      rw [redeemRaw, hkey]
      simp only [hid]
      rfl
    | some iv =>
      obtain rfl := Base64.decode?_eq_some_iff.mp hid
      by_cases hiv : iv.length = ivSize
      · exact .inr (.inr ⟨key, iv, payload, rfl, hiv, rfl⟩)
      · refine .inr (.inl ⟨.capabilityIv iv.length, ?_⟩)
        rw [redeemRaw, hkey]
        simp only [hid]
        exact if_pos hiv

/-- What is redeemed has been checked. -/
theorem isSized_of_redeemRaw (h : c.redeemRaw recipient = .ok k) : k.IsSized := by
  rcases redeemRaw_cases c recipient with ⟨cause, -, herror⟩ | ⟨cause, herror⟩ |
    ⟨key, iv, payload, hkey, hiv, rfl⟩
  · cases herror.symm.trans h
  · cases herror.symm.trans h
  · rw [redeemRaw_of_cipher hkey hiv] at h
    split at h
    · cases h
    · split at h
      · cases h
      · exact RawKey.isSized_of_ofPlaintext (mapError_eq_ok_iff.mp h)

/-- A wrong length is complained about exactly where the record of a key of this length was
    sealed, if it is not that of the recipient key. -/
theorem redeemRaw_eq_invalidLength_iff {expected actual : Nat}
    (hrecipient : ∀ expected actual, recipient.cipher ≠ .error (.invalidLength expected actual)) :
    c.redeemRaw recipient = .error (.keyState (.invalidLength expected actual)) ↔
      ∃ document shared, c.SealedForRaw recipient document ∧
        document.length < XChaCha20Poly1305.textLimit ∧
        SharedKey.codec.decode document = .ok shared ∧ expected = shared.type.size ∧
        actual = shared.bytes.length ∧ actual ≠ expected := by
  constructor
  · intro h
    rcases redeemRaw_cases c recipient with ⟨cause, hcause, herror⟩ | ⟨cause, herror⟩ |
      ⟨key, iv, payload, hkey, hiv, rfl⟩
    · cases herror.symm.trans h
      exact absurd hcause (hrecipient _ _)
    · cases herror.symm.trans h
    · rw [redeemRaw_of_cipher hkey hiv] at h
      split at h
      · cases h
      · next document hopen =>
        obtain ⟨hlt, rfl⟩ := XChaCha20Poly1305.unwrapBelow?_eq_some_iff.mp hopen
        split at h
        · cases h
        · next shared hdecode =>
          rw [RawKey.ofPlaintext] at h
          split at h
          · cases h
          · next hlength =>
            cases h
            exact ⟨document, shared, ⟨key, iv, hkey, hiv, rfl⟩, hlt, hdecode, rfl, rfl, hlength⟩
  · rintro ⟨document, shared, ⟨key, iv, hkey, hiv, rfl⟩, hlt, hdecode, rfl, rfl, hne⟩
    have hopen := XChaCha20Poly1305.unwrapBelow?_eq_some_iff.mpr
      ⟨hlt, (rfl : XChaCha20Poly1305.wrap key iv associatedData document = _)⟩
    rw [redeemRaw_of_cipher hkey hiv, hopen]
    simp only [hdecode, RawKey.ofPlaintext, if_neg hne]
    rfl

end Capability

/-! ## Reset requests -/

namespace ResetRequest

/-- The code of a request, if its own key can be prepared, which may have any length. -/
def mac? (r : ResetRequest) : Option Bytes := do
  return (← Hmac.prepare? r.key).mac (Bytes.ofString r.id.text)

def checkMac? (r : ResetRequest) (code : Bytes) : Option Bool := do
  return (← r.mac?) = code

theorem mac?_eq (r : ResetRequest) : r.mac? = some r.mac := by
  rw [mac?, Hmac.prepare?_eq_some]
  rfl

theorem checkMac?_eq (r : ResetRequest) (code : Bytes) :
    r.checkMac? code = some (r.checkMac code) := by
  rw [checkMac?, mac?_eq]
  rfl

end ResetRequest

/-! ## Agreement -/

/-- Whatever a key is used for comes out as it does with the raw key, where all that is encrypted
    or decrypted is short enough for the cipher. -/
structure Key.AgreesRaw (k : Key) : Prop where
  withIv : ∀ iv, (k.withIv iv).raw = k.raw.withIv iv
  withContext : ∀ scope value, (k.withContext scope value).raw = k.raw.withContext scope value
  plaintext : k.raw.plaintext = k.secret.map KeyBytes.bytes
  cipher : k.raw.cipher = k.cipherSecret.map KeyBytes.bytes
  wrap : ∀ outer : Key, k.raw.wrap outer.raw = Fault.embed raw (k.wrap outer)
  unwrap : ∀ outer : Key, (∀ ciphertext, k.material = .wrapped ciphertext →
      ciphertext.length - XChaCha20Poly1305.tagSize < XChaCha20Poly1305.textLimit) →
    k.raw.unwrap outer.raw = (k.unwrap outer).map raw
  issue : ∀ (recipient : Key) (iv : Bytes), Capability.issueRaw recipient.raw iv k.raw =
    Fault.embed id (Capability.issue recipient iv k)
  issueForPasscode : ∀ (passcode salt : Bytes) (kdf : KdfParams) (iv : Bytes),
    Capability.issueForPasscodeRaw passcode salt kdf iv k.raw =
      Fault.embed id (Capability.issueForPasscode passcode salt kdf iv k)
  redeem : ∀ c : Capability,
    c.payload.length - XChaCha20Poly1305.tagSize < XChaCha20Poly1305.textLimit →
    c.redeemRaw k.raw = (c.redeem k).map raw
  mac : ∀ message, k.raw.mac message = Fault.embed id (k.mac message)
  checkMac : ∀ message code,
    k.raw.checkMac message code = Fault.embed id (k.checkMac message code)
  sealContent : ∀ material content associated, content.length < XChaCha20Poly1305.textLimit →
    k.raw.sealContent material content associated =
      Fault.embed id (k.sealContent material content associated)
  openContent : ∀ material (c : SealedContent) associated,
    c.ciphertext.length < XChaCha20Poly1305.textLimit →
    k.raw.openContent material c associated =
      Fault.embed id (k.openContent material c associated)
  encrypt : ∀ (m : Message) (keyId : KeyId),
    m.recordBytes.length < XChaCha20Poly1305.textLimit →
    m.encryptRaw keyId k.raw = Fault.embed id (m.encrypt keyId k)

theorem Key.agreesRaw (k : Key) : k.AgreesRaw where
  withIv := k.raw_withIv
  withContext := k.raw_withContext
  plaintext := k.plaintext_raw
  cipher := k.cipher_raw
  wrap := k.wrap_raw
  unwrap := unwrap_raw
  issue recipient iv := Capability.issue_raw recipient iv k
  issueForPasscode passcode salt kdf iv := Capability.issueForPasscode_raw passcode salt kdf iv k
  redeem _ := Capability.redeem_raw k
  mac := k.mac_raw
  checkMac := k.checkMac_raw
  sealContent material _ associated := k.sealContent_raw material associated
  openContent material _ associated := k.openContent_raw material associated
  encrypt m keyId := m.encrypt_raw keyId k

end ChatKeys
