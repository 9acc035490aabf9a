/-
  ChatKeys.Proofs.Raw.Obtainable

  Every raw key that can be got hold of has the right size.

  `Obtainable` has a rule for each way to get a key, a key pair or a service, or another one from
  those that are at hand: from bytes and passcodes, from stored forms and capabilities wherever
  they come from, by relabelling, wrapping and unwrapping, and from the service.

    * `Obtainable.isSized` — each of these gives keys of the right size alone, so all that are
      ever at hand are of it; and all of those are obtainable (`obtainable_key_iff`);
    * `RawKey.IsSound` — so nothing that was taken to be impossible happens with them, the
      cipher takes each of them, and a wrong length is only ever that of something that was
      wrapped or sealed (`Key.isSound_raw`).
-/
import ChatKeys.Proofs.Raw.Sealing

namespace ChatKeys

open Json

/-! ## Stored forms -/

namespace RawKey

def codec : Codec RawKey where
  reader := Key.record.reader fun (type, iv, ciphertext, context, _) =>
    .ok (ofCiphertext type iv ciphertext context)
  writer k :=
    match k.material with
    | .plain _ => .error .plainKey
    | .wrapped ciphertext => Key.record.writer (k.type, k.iv, ciphertext, k.context, ())

/-- What is read is wrapped. -/
theorem isSized_of_reads {k : RawKey} (h : codec.Reads k) : k.IsSized := by
  obtain ⟨s, rest, hread⟩ := h
  obtain ⟨⟨type, iv, ciphertext, context, _⟩, -, hbuild⟩ := Record.reads_of_reader hread
  obtain rfl := Except.ok.inj hbuild
  exact isSized_ofCiphertext type iv ciphertext context

end RawKey

namespace RawPair

def record : Record (Unit × Bytes × RawKey × Unit) where
  name := "ManagedKeyPair"
  fields :=
    .cons { name := "key_pair_type", codec := .choice [("x25519", ())] fun _ => "x25519" } <|
    .cons { name := "public_key", codec := .bytes } <|
    .cons { name := "private_key", codec := RawKey.codec } .nil

def codec : Codec RawPair :=
  record.codec (fun (_, publicKey, privateKey, _) => ⟨publicKey, privateKey⟩)
    fun p => ((), p.publicKey, p.privateKey, ())

theorem isSized_of_reads {p : RawPair} (h : codec.Reads p) : p.privateKey.IsSized := by
  obtain ⟨⟨_, publicKey, privateKey, _⟩, ⟨-, -, hkey, -⟩, rfl⟩ := Record.reads_of_codec h
  exact RawKey.isSized_of_reads (hkey.of_required rfl)

end RawPair

/-! ## The service -/

/-- A service with a master key of any length, in whatever state. -/
structure RawKms where
  master : RawKey

namespace RawKms

def create (e : Environment) : Except (Fault KmsError) RawKms × Environment :=
  let (bytes, later) := e.draw keySize
  (match RawKey.ofPlaintext .xchacha20poly1305 bytes with
    | .ok master => .ok ⟨master⟩
    | .error _ => .error .impossible, later)

def ofCredential (credential : RawKey) : Except KmsError RawKms :=
  if credential.isEncrypted || !credential.type.isSymmetric then
    .error (.invalidRequest "credential must be a decrypted symmetric key")
  else .ok ⟨credential⟩

def generate (kms : RawKms) (type : KeyType) (context : KeyContext) (e : Environment) :
    Except (Fault KmsError) RawKey × Environment :=
  let (bytes, e) := e.draw type.size
  let (iv, e) := e.draw ivSize
  let wrapped : Except (Fault KeyError) RawKey := do
    let key ← RawKey.ofPlaintext type bytes
    ((key.withIv iv).withContext context.scope context.value).wrap kms.master
  (wrapped.mapError (Fault.map fun cause => .invalidRequest (Error.keyState cause).message), e)

def unwrap (kms : RawKms) (key : RawKey) : Except KmsError RawKey :=
  match key.unwrap kms.master with
  | .ok key => .ok key
  | .error .accessDenied => .error .accessDenied
  | .error cause => .error (.invalidRequest cause.message)

variable {kms : RawKms} {k w : RawKey}

theorem isSized_of_unwrap (h : kms.unwrap w = .ok k) : k.IsSized := by
  rw [unwrap] at h
  split at h
  · next hopen =>
    obtain rfl := Except.ok.inj h
    exact RawKey.isSized_of_unwrap hopen
  · cases h
  · cases h

end RawKms

namespace LocalKms

def raw (kms : LocalKms) : RawKms where
  master := kms.master.raw

theorem create_raw (e : Environment) :
    RawKms.create e = (.ok (create e).1.raw, (create e).2) := by
  have hlength := Environment.length_draw keySize e
  show (match RawKey.ofPlaintext .xchacha20poly1305 (e.draw keySize).1 with
    | .ok master => Except.ok (RawKms.mk master)
    | .error _ => .error Fault.impossible, _) = _
  rw [Key.ofPlaintext_raw, Key.ofPlaintext, dif_pos hlength]
  rfl

theorem ofCredential_raw (credential : Key) :
    RawKms.ofCredential credential.raw = (ofCredential credential).map raw := by
  have htype : credential.raw.type = credential.type := rfl
  have hrefused : (credential.isEncrypted || !credential.type.isSymmetric) =
      !credential.isUsable := by
    rw [Key.isUsable, Bool.not_and, Bool.not_not, Bool.or_comm]
  rw [RawKms.ofCredential, ofCredential, Key.isEncrypted_raw, htype, hrefused]
  by_cases h : credential.isUsable = true
  · rw [dif_pos h, if_neg (by simp [h])]
    rfl
  · rw [dif_neg h, if_pos (by simp [h])]
    rfl

/-- What is drawn for a key has its size, so that nothing keeps it from being wrapped. -/
theorem generate_raw (kms : LocalKms) (type : KeyType) (context : KeyContext) (e : Environment) :
    kms.raw.generate type context e =
      (Fault.embed Key.raw (kms.generate type context e).1, (kms.generate type context e).2) := by
  let drawn := e.draw keySize
  let iv := drawn.2.draw ivSize
  let secret : KeyBytes := ⟨drawn.1, Environment.length_draw _ _⟩
  let key := ((Key.ofSecret type secret).withIv iv.1).withContext context.scope context.value
  have hplain : RawKey.ofPlaintext type drawn.1 = .ok (Key.ofSecret type secret).raw := by
    rw [Key.ofPlaintext_raw, Key.ofPlaintext, dif_pos secret.length_bytes]
    rfl
  have hwrap := key.wrap_raw kms.master
  rw [RawKms.generate, KeyType.size_eq]
  show (Except.mapError _ (liftM (RawKey.ofPlaintext type drawn.1) >>= _), iv.2) =
    (Fault.embed Key.raw ((key.wrap kms.master).mapError _), iv.2)
  rw [hplain]
  show (Except.mapError _ (key.raw.wrap kms.master.raw), iv.2) = _
  rw [hwrap]
  cases key.wrap kms.master with
  | error cause => rfl
  | ok w => rfl

end LocalKms

/-! ## What can be got hold of -/

/-- Something that holds a key. -/
inductive Held where
  | key (k : RawKey)
  | pair (p : RawPair)
  | service (kms : RawKms)

/-- What can be got hold of, in any number of steps. Bytes, stored forms and capabilities may come
    from anywhere. -/
inductive Obtainable : Held → Prop where
  | ofPlaintext {type : KeyType} {plaintext : Bytes} {k : RawKey} :
      RawKey.ofPlaintext type plaintext = .ok k → Obtainable (.key k)
  | ofCiphertext (type : KeyType) (iv ciphertext : Bytes) (context : Option KeyContext) :
      Obtainable (.key (.ofCiphertext type iv ciphertext context))
  | ofPasscode {passcode salt : Bytes} {kdf : KdfParams} {k : RawKey} :
      RawKey.ofPasscode passcode salt kdf = .ok k → Obtainable (.key k)
  | read {k : RawKey} : RawKey.codec.Reads k → Obtainable (.key k)
  | withIv {k : RawKey} (iv : Bytes) : Obtainable (.key k) → Obtainable (.key (k.withIv iv))
  | withContext {k : RawKey} (scope value : String) :
      Obtainable (.key k) → Obtainable (.key (k.withContext scope value))
  | wrap {k outer w : RawKey} : Obtainable (.key k) → Obtainable (.key outer) →
      k.wrap outer = .ok w → Obtainable (.key w)
  | unwrap {w outer k : RawKey} : Obtainable (.key w) → Obtainable (.key outer) →
      w.unwrap outer = .ok k → Obtainable (.key k)
  | redeem {recipient k : RawKey} {c : Capability} : Obtainable (.key recipient) →
      c.redeemRaw recipient = .ok k → Obtainable (.key k)
  | pairOfSecret {secret : Bytes} {p : RawPair} : RawPair.ofSecret secret = .ok p →
      Obtainable (.pair p)
  | readPair {p : RawPair} : RawPair.codec.Reads p → Obtainable (.pair p)
  | pairWithIv {p : RawPair} (iv : Bytes) : Obtainable (.pair p) → Obtainable (.pair (p.withIv iv))
  | wrapPair {p q : RawPair} {outer : RawKey} : Obtainable (.pair p) → Obtainable (.key outer) →
      p.wrap outer = .ok q → Obtainable (.pair q)
  | unwrapPair {p q : RawPair} {outer : RawKey} : Obtainable (.pair q) → Obtainable (.key outer) →
      q.unwrap outer = .ok p → Obtainable (.pair p)
  | privateKey {p : RawPair} : Obtainable (.pair p) → Obtainable (.key p.privateKey)
  | createService {e : Environment} {kms : RawKms} : (RawKms.create e).1 = .ok kms →
      Obtainable (.service kms)
  | ofCredential {credential : RawKey} {kms : RawKms} : Obtainable (.key credential) →
      RawKms.ofCredential credential = .ok kms → Obtainable (.service kms)
  | credential {kms : RawKms} : Obtainable (.service kms) → Obtainable (.key kms.master)
  | generate {kms : RawKms} {type : KeyType} {context : KeyContext} {e : Environment}
      {w : RawKey} : Obtainable (.service kms) → (kms.generate type context e).1 = .ok w →
      Obtainable (.key w)
  | unwrapByService {kms : RawKms} {w k : RawKey} : Obtainable (.service kms) →
      Obtainable (.key w) → kms.unwrap w = .ok k → Obtainable (.key k)

/-- Keys and private halves are of the right size, and a service is one with a usable master key. -/
def Held.IsSized : Held → Prop
  | key k => k.IsSized
  | pair p => p.privateKey.IsSized
  | service kms => ∃ kms' : LocalKms, kms'.raw = kms

namespace Obtainable

variable {held : Held} {k outer : RawKey} {p : RawPair} {kms : RawKms}

/-- Each step gives what is of the right size from what is. -/
theorem isSized (h : Obtainable held) : held.IsSized := by
  induction h with
  | ofPlaintext h => exact RawKey.isSized_of_ofPlaintext h
  | ofCiphertext type iv ciphertext context =>
    exact RawKey.isSized_ofCiphertext type iv ciphertext context
  | ofPasscode h =>
    rw [Key.ofPasscode_raw] at h
    exact RawKey.exists_raw_iff.mp ⟨_, Except.ok.inj h⟩
  | read h => exact RawKey.isSized_of_reads h
  | withIv iv _ ih => exact RawKey.IsSized.withIv ih iv
  | withContext scope value _ ih => exact RawKey.IsSized.withContext ih scope value
  | wrap _ _ h => exact RawKey.isSized_of_wrap h
  | unwrap _ _ h => exact RawKey.isSized_of_unwrap h
  | redeem _ h => exact Capability.isSized_of_redeemRaw h
  | pairOfSecret h =>
    rw [KeyPair.ofSecret_raw] at h
    obtain ⟨q, -, hraw⟩ := map_eq_ok_iff.mp h
    exact KeyPair.exists_raw_iff.mp ⟨q, hraw⟩
  | readPair h => exact RawPair.isSized_of_reads h
  | pairWithIv iv _ ih => exact RawKey.IsSized.withIv ih iv
  | wrapPair _ _ h => exact RawPair.isSized_of_wrap h
  | unwrapPair _ _ h => exact RawPair.isSized_of_unwrap h
  | privateKey _ ih => exact ih
  | createService h =>
    rw [LocalKms.create_raw] at h
    exact ⟨_, Except.ok.inj h⟩
  | ofCredential _ h ih =>
    obtain ⟨credential, rfl⟩ := RawKey.exists_raw_iff.mpr ih
    rw [LocalKms.ofCredential_raw] at h
    obtain ⟨kms, -, hraw⟩ := map_eq_ok_iff.mp h
    exact ⟨kms, hraw⟩
  | credential _ ih =>
    obtain ⟨kms, rfl⟩ := ih
    exact RawKey.exists_raw_iff.mp ⟨kms.master, rfl⟩
  | generate _ h ih =>
    obtain ⟨kms, rfl⟩ := ih
    rw [LocalKms.generate_raw] at h
    obtain ⟨w, -, hraw⟩ := Fault.embed_eq_ok_iff.mp h
    exact RawKey.exists_raw_iff.mp ⟨w, hraw⟩
  | unwrapByService _ _ h => exact RawKms.isSized_of_unwrap h

/-- All keys of the right size can be got hold of. -/
theorem of_isSized (h : k.IsSized) : Obtainable (.key k) := by
  obtain ⟨type, iv, context, material⟩ := k
  cases material with
  | wrapped ciphertext => exact .ofCiphertext type iv ciphertext context
  | plain secret =>
    have hplain : Obtainable (.key ⟨type, [], none, .plain secret⟩) :=
      .ofPlaintext (if_pos (h secret rfl))
    cases context with
    | none => exact hplain.withIv iv
    | some c => exact (hplain.withIv iv).withContext c.scope c.value

end Obtainable

theorem obtainable_key_iff {k : RawKey} : Obtainable (.key k) ↔ k.IsSized :=
  ⟨Obtainable.isSized, Obtainable.of_isSized⟩

/-- An obtainable raw key is a key. -/
theorem obtainable_key_iff_exists {k : RawKey} : Obtainable (.key k) ↔ ∃ key : Key, key.raw = k :=
  obtainable_key_iff.trans RawKey.exists_raw_iff.symm

/-! ## What becomes of it -/

/-- What is to be known of a key that is at hand, together with others that are. -/
structure RawKey.IsSound (k : RawKey) : Prop where
  /-- In the clear it has the size of its type. -/
  size : ∀ secret, k.plaintext = .ok secret → secret.length = k.type.size
  /-- It is one of the keys whose size is known, and used as this one is. -/
  key : ∃! key : Key, key.raw = k ∧ key.AgreesRaw
  /-- The cipher takes it. -/
  cipher : ∀ expected actual, k.cipher ≠ .error (.invalidLength expected actual)
  /-- Nothing impossible happens when it is wrapped or issued. -/
  wrap : ∀ outer, Obtainable (.key outer) → k.wrap outer ≠ .error .impossible
  issue : ∀ recipient iv, Obtainable (.key recipient) →
    Capability.issueRaw recipient iv k ≠ .error .impossible
  issueForPasscode : ∀ passcode salt kdf iv,
    Capability.issueForPasscodeRaw passcode salt kdf iv k ≠ .error .impossible
  /-- Nothing impossible happens when it makes or checks a code. -/
  mac : ∀ message, k.mac message ≠ .error .impossible
  checkMac : ∀ message code, k.checkMac message code ≠ .error .impossible
  /-- Nothing impossible happens when it encrypts what is short enough for the cipher. -/
  sealContent : ∀ material content associated, content.length < XChaCha20Poly1305.textLimit →
    k.sealContent material content associated ≠ .error .impossible
  encrypt : ∀ (m : Message) keyId, m.recordBytes.length < XChaCha20Poly1305.textLimit →
    m.encryptRaw keyId k ≠ .error .impossible
  /-- Unwrapping it complains about a length exactly if it was wrapped from as many bytes, and
      these are too many or too few. -/
  unwrap : ∀ outer, Obtainable (.key outer) → ∀ expected actual,
    (k.unwrap outer = .error (.keyState (.invalidLength expected actual)) ↔
      ∃ plaintext, k.IsWrapped outer plaintext ∧ plaintext.length < XChaCha20Poly1305.textLimit ∧
        expected = k.type.size ∧ actual = plaintext.length ∧ actual ≠ expected)
  /-- Redeeming a capability with it complains about a length exactly if the record of a key of
      this length was sealed to it. -/
  redeem : ∀ (c : Capability) expected actual,
    (c.redeemRaw k = .error (.keyState (.invalidLength expected actual)) ↔
      ∃ document shared, c.SealedForRaw k document ∧
        document.length < XChaCha20Poly1305.textLimit ∧
        SharedKey.codec.decode document = .ok shared ∧ expected = shared.type.size ∧
        actual = shared.bytes.length ∧ actual ≠ expected)

/-- The cipher takes every secret of a key, so there is no other length to complain of. -/
theorem Key.cipher_raw_ne_invalidLength (key : Key) (expected actual : Nat) :
    key.raw.cipher ≠ .error (.invalidLength expected actual) := by
  rw [cipher_raw]
  intro h
  cases hkey : key.cipherSecret with
  | ok secret =>
    rw [hkey] at h
    cases h
  | error cause =>
    rw [hkey] at h
    obtain rfl : cause = .invalidLength expected actual := Except.error.inj h
    rcases cipherSecret_eq_error_iff.mp hkey with ⟨-, hcause⟩ | ⟨-, -, hcause⟩
    · cases hcause
    · cases hcause

theorem Key.isSound_raw (key : Key) : key.raw.IsSound where
  size := RawKey.exists_raw_iff.mp ⟨key, rfl⟩
  key := ⟨key, ⟨rfl, key.agreesRaw⟩, fun _ h => raw_inj.mp h.1⟩
  cipher := key.cipher_raw_ne_invalidLength
  wrap outer houter := by
    obtain ⟨outer, rfl⟩ := obtainable_key_iff_exists.mp houter
    rw [wrap_raw]
    exact Fault.embed_ne_impossible _ _
  issue recipient iv hrecipient := by
    obtain ⟨recipient, rfl⟩ := obtainable_key_iff_exists.mp hrecipient
    rw [Capability.issue_raw]
    exact Fault.embed_ne_impossible _ _
  issueForPasscode passcode salt kdf iv := by
    rw [Capability.issueForPasscode_raw]
    exact Fault.embed_ne_impossible _ _
  mac message := by
    rw [mac_raw]
    exact Fault.embed_ne_impossible _ _
  checkMac message code := by
    rw [checkMac_raw]
    exact Fault.embed_ne_impossible _ _
  sealContent material content associated h := by
    rw [sealContent_raw _ _ _ h]
    exact Fault.embed_ne_impossible _ _
  encrypt m keyId h := by
    rw [Message.encrypt_raw _ _ _ h]
    exact Fault.embed_ne_impossible _ _
  unwrap outer houter expected actual := by
    obtain ⟨outer, rfl⟩ := obtainable_key_iff_exists.mp houter
    exact RawKey.unwrap_eq_invalidLength_iff outer.cipher_raw_ne_invalidLength
  redeem c expected actual :=
    Capability.redeemRaw_eq_invalidLength_iff key.cipher_raw_ne_invalidLength

/-- Whatever was done to get hold of a key, and with whatever came from elsewhere, in the clear it
    has the size of its type. Nothing impossible happens with keys that were got hold of, whether
    they are wrapped, issued, used for codes or used to encrypt what is short enough for the
    cipher. The cipher takes all of them, so that unwrapping and redeeming complain about a length
    for nothing but what was wrapped or sealed, with its tag, in this length, and unwrapping a pair
    for nothing else. Passcodes always give a key, there always is a fresh service, and a reset
    request always has a code. -/
theorem obtainable_keys_sound :
    (∀ k, Obtainable (.key k) → k.IsSound) ∧
    (∀ p outer, Obtainable (.pair p) → Obtainable (.key outer) →
      p.privateKey.IsSound ∧ (∃! pair : KeyPair, pair.raw = p ∧ pair.AgreesRaw) ∧
      p.wrap outer ≠ .error .impossible ∧
      ∀ e, p.unwrap outer = .error e ↔ p.privateKey.unwrap outer = .error e) ∧
    (∀ kms, Obtainable (.service kms) → kms.master.IsSound ∧
      ∀ type context e, (kms.generate type context e).1 ≠ .error .impossible) ∧
    (∀ passcode salt kdf, ∃ k, RawKey.ofPasscode passcode salt kdf = .ok k) ∧
    (∀ e, ∃ kms, (RawKms.create e).1 = .ok kms) ∧
    ∀ r : ResetRequest, r.mac? = some r.mac ∧
      ∀ code, r.checkMac? code = some (r.checkMac code) := by
  refine ⟨fun k hk => ?_, fun p outer hp houter => ?_, fun kms hkms => ?_,
    fun passcode salt kdf => ⟨_, Key.ofPasscode_raw passcode salt kdf⟩, fun e => ?_,
    fun r => ⟨r.mac?_eq, r.checkMac?_eq⟩⟩
  · obtain ⟨key, rfl⟩ := obtainable_key_iff_exists.mp hk
    exact key.isSound_raw
  · obtain ⟨pair, rfl⟩ := KeyPair.exists_raw_iff.mpr hp.isSized
    obtain ⟨outer, rfl⟩ := obtainable_key_iff_exists.mp houter
    refine ⟨pair.privateKey.isSound_raw, ?_, ?_, fun e => RawPair.unwrap_eq_error_iff⟩
    · exact ⟨pair, ⟨rfl, pair.agreesRaw⟩, fun _ h => KeyPair.raw_inj.mp h.1⟩
    · rw [pair.wrap_raw]
      exact Fault.embed_ne_impossible _ _
  · obtain ⟨kms, rfl⟩ := hkms.isSized
    refine ⟨kms.master.isSound_raw, fun type context e => ?_⟩
    rw [LocalKms.generate_raw]
    exact Fault.embed_ne_impossible _ _
  · rw [LocalKms.create_raw]
    exact ⟨_, rfl⟩

/-- A key that is too short by a byte and was wrapped elsewhere under the example key: reading it is
    no trouble, and unwrapping it complains about its length. With the example key a pair and a
    service are at hand as well. -/
theorem obtainable_keys_sound_example :
    let outer := exampleKey.raw
    let iv : Bytes := List.replicate ivSize 0
    let short : Bytes := List.replicate 31 7
    let labels := Key.ofCiphertext .x25519 iv [] none
    let w := RawKey.ofCiphertext .x25519 iv
      (XChaCha20Poly1305.wrap (List.replicate 32 1) iv labels.associatedData short) none
    Obtainable (.key outer) ∧ Obtainable (.key w) ∧
      w.unwrap outer = .error (.keyState (.invalidLength 32 31)) ∧
      (∃ p, Obtainable (.pair p) ∧ p.wrap outer ≠ .error .impossible) ∧
      ∃ kms, Obtainable (.service kms) ∧
        ∀ e, (kms.generate .x25519 ⟨"nonce", "1"⟩ e).1 ≠ .error .impossible := by
  intro outer iv short labels w
  obtain ⟨hkeys, hpairs, hservices, -⟩ := obtainable_keys_sound
  have houter : Obtainable (.key outer) := obtainable_key_iff_exists.mpr ⟨exampleKey, rfl⟩
  have hw : Obtainable (.key w) := .ofCiphertext _ _ _ _
  have hlimit : short.length < XChaCha20Poly1305.textLimit := by decide
  have hunwrap := ((hkeys w hw).unwrap outer houter 32 31).mpr
    ⟨short, ⟨_, rfl, rfl, rfl⟩, hlimit, rfl, rfl, by decide⟩
  obtain ⟨p, hp⟩ : ∃ p, RawPair.ofSecret (List.replicate 32 9) = .ok p := ⟨_, rfl⟩
  have hpair : Obtainable (.pair p) := .pairOfSecret hp
  obtain ⟨kms, hkms⟩ : ∃ kms, RawKms.ofCredential outer = .ok kms := ⟨_, rfl⟩
  have hservice : Obtainable (.service kms) := .ofCredential houter hkms
  exact ⟨houter, hw, hunwrap, ⟨p, hpair, (hpairs p outer hpair houter).2.2.1⟩,
    kms, hservice, fun e => (hservices kms hservice).2 _ _ e⟩

end ChatKeys
