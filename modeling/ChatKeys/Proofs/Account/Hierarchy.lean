/-
  ChatKeys.Proofs.Account.Hierarchy

  How the keys of an account hang together.

  Two ways lead to the key-encrypting key: the service unwraps the system key, and
  the client key opens the user key.  `Account.Hierarchy` says that both end at the
  same key, and that this key opens the account's key pair.

    * `exists_create` — a new account has this hierarchy;
    * `Hierarchy.openKek`, `Hierarchy.unlock` — what it is good for;
    * `Hierarchy.envelope_eq` — what it leaves no choice in;
    * `Hierarchy.withClientKey`, `Hierarchy.exists_withClientKey` — it goes on with
      any other client key.
-/
import ChatKeys.Proofs.Account.Operations
import ChatKeys.Proofs.Account.Stored

namespace ChatKeys.Account

/-- The account's keys lead to a key-encrypting key and a key pair, from the
    service's master key and from the client key alike. -/
structure Hierarchy (kms : LocalKms) (kek : Key) (pair : KeyPair) (a : Account) (c : Key) :
    Prop where
  systemKey : kms.unwrap a.systemKey = .ok kek
  userKey : (kek.withIv (ivOfNonce a.nonce)).wrap c = .ok a.userKey
  keyPair : pair.wrap kek = .ok a.keyPair
  mac : c.mac a.nonce = .ok a.mac

variable {kms : LocalKms} {kek c old new : Key} {pair : KeyPair} {a a' : Account}

namespace Hierarchy

theorem isWrapped (h : Hierarchy kms kek pair a c) : a.IsWrapped where
  systemKey := Key.isEncrypted_of_wrap (LocalKms.unwrap_eq_ok_iff.mp h.systemKey)
  userKey := Key.isEncrypted_of_wrap h.userKey
  keyPair := KeyPair.isEncrypted_of_wrap h.keyPair

theorem openKek (h : Hierarchy kms kek pair a c) :
    (a.openKek c).result = .ok (kek.withIv (ivOfNonce a.nonce)) :=
  result_openKek_eq_ok_iff.mpr ⟨h.mac, h.userKey⟩

/-- The client key opens the account's key pair. -/
theorem unlock (h : Hierarchy kms kek pair a c) : (a.unlock c).result = .ok pair := by
  refine result_unlock_eq_ok_iff.mpr ⟨_, h.openKek, ?_⟩
  rw [KeyPair.wrap_congr (Key.cipherSecret_withIv kek _)]
  exact h.keyPair

/-- Any key with the client key's secret opens the same key-encrypting key. -/
theorem eq_of_openKek (h : Hierarchy kms kek pair a c) (hold : old.secret = c.secret) {kek' : Key}
    (hopen : (a.openKek old).result = .ok kek') : kek' = kek.withIv (ivOfNonce a.nonce) := by
  have hwrap : kek'.wrap old = .ok a.userKey := (result_openKek_eq_ok_iff.mp hopen).2
  have hsecret : old.cipherSecret = c.cipherSecret :=
    Key.cipherSecret_congr (Key.isUsable_of_wrap hwrap) (Key.isUsable_of_wrap h.userKey) hold
  -- Both keys are now known to be wrapped to the same user key under the client key.
  rw [Key.wrap_congr hsecret] at hwrap
  have hopened := Key.unwrap_eq_ok_iff.mpr hwrap
  rw [Key.unwrap_eq_ok_iff.mpr h.userKey] at hopened
  exact (Except.ok.inj hopened).symm

/-- With another client key the account keeps its hierarchy. The vector that the
    key-encrypting key comes with does not matter. -/
theorem withClientKey (h : Hierarchy kms kek pair a c) {kek' : Key}
    (hkek : kek'.withIv (ivOfNonce a.nonce) = kek.withIv (ivOfNonce a.nonce))
    (hnew : a.withClientKey kek' new = .ok a') : Hierarchy kms kek pair a' new := by
  obtain ⟨userKey, mac, huserKey, hmac, rfl⟩ := withClientKey_eq_ok_iff.mp hnew
  rw [hkek] at huserKey
  exact { h with userKey := huserKey, mac := hmac }

/-- The user key and the code depend on the client key alone, not on how the account
    came to have it. -/
theorem envelope_eq {c' : Key} (h : Hierarchy kms kek pair a c) (h' : Hierarchy kms kek pair a' c')
    (hnonce : a'.nonce = a.nonce) (hsecret : c'.secret = c.secret) :
    a'.userKey = a.userKey ∧ a'.mac = a.mac := by
  have hcipher : c'.cipherSecret = c.cipherSecret :=
    Key.cipherSecret_congr (Key.isUsable_of_wrap h'.userKey) (Key.isUsable_of_wrap h.userKey)
      hsecret
  have huserKey := h'.userKey
  rw [hnonce, Key.wrap_congr hcipher, h.userKey] at huserKey
  have hmac := h'.mac
  rw [hnonce, Key.mac, hsecret, ← Key.mac, h.mac] at hmac
  exact ⟨(Except.ok.inj huserKey).symm, (Except.ok.inj hmac).symm⟩

/-- Any key of the cipher can become the client key. -/
theorem exists_withClientKey (h : Hierarchy kms kek pair a c) (hnew : new.isUsable = true)
    {kek' : Key} (hkek : kek'.withIv (ivOfNonce a.nonce) = kek.withIv (ivOfNonce a.nonce)) :
    ∃ a', a.withClientKey kek' new = .ok a' := by
  -- That the key-encrypting key is in the clear is seen from its being wrapped already.
  have hplain := Key.not_isEncrypted_of_wrap h.userKey
  rw [← hkek, Key.isEncrypted_withIv] at hplain
  exact exists_withClientKey_iff.mpr ⟨hplain, hnew⟩

end Hierarchy

/-- A new account has its hierarchy, with the pair of the secret behind the nonce
    in the bytes that were drawn for both. -/
theorem exists_create (kms : LocalKms) (e : Environment) (password : String) (kdf : KdfParams) :
    ∃ a kek pair, ((create password kdf).run kms.responder e).result
        = .ok (a, a.clientKey password) ∧
      KeyPair.ofSecret ((e.draw (nonceSize + KeyPair.privateKeySize)).1.drop nonceSize)
        = .ok pair ∧
      Hierarchy kms kek (pair.withIv (ivOfNonce a.nonce)) a (a.clientKey password) := by
  -- One draw gives the nonce and the secret, the service the key-encrypting key.
  let random := (e.draw (nonceSize + KeyPair.privateKeySize)).1
  let nonce := random.take nonceSize
  have hrandom : random.length = nonceSize + KeyPair.privateKeySize := Environment.length_draw _ _
  have hsecret : (random.drop nonceSize).length = keySize := by
    rw [List.length_drop, hrandom, Nat.add_sub_cancel_left]
    rfl
  obtain ⟨kek, systemKey, later, hgenerate, hsystem, htype, -, hplain⟩ :=
    kms.exists_generate .xchacha20poly1305 ⟨contextScope, Base64.encode nonce⟩
      (e.draw (nonceSize + KeyPair.privateKeySize)).2
  have hkek : kek.isUsable = true := by rw [Key.isUsable, htype, hplain]; rfl
  obtain ⟨secret, hmaterial⟩ := Key.exists_plain hplain
  let pair : KeyPair := ⟨X25519.publicKey (random.drop nonceSize),
    .ofSecret .x25519 ⟨random.drop nonceSize, hsecret⟩⟩
  have hpair : KeyPair.ofSecret (random.drop nonceSize) = .ok pair :=
    KeyPair.ofSecret_of_length hsecret
  obtain ⟨keyPair, hkeyPair⟩ : ∃ keyPair, (pair.withIv (ivOfNonce nonce)).wrap kek = .ok keyPair :=
    KeyPair.exists_wrap rfl hkek (length_ivOfNonce nonce)
  let clientKey := Key.ofPasscode (Bytes.ofString password) nonce kdf
  obtain ⟨userKey, huserKey⟩ :
      ∃ userKey, (kek.withIv (ivOfNonce nonce)).wrap clientKey = .ok userKey :=
    Key.exists_wrap hmaterial rfl (length_ivOfNonce nonce)
  have hmac : clientKey.mac nonce = .ok (Hmac.mac (Key.passcodeSecret _ nonce kdf).bytes nonce) :=
    rfl
  -- With all parts at hand the dialogue is carried through step by step.
  refine ⟨⟨nonce, _, kdf, systemKey, userKey, keyPair, none⟩, kek, pair, ?_, hpair,
    ⟨hsystem, huserKey, hkeyPair, hmac⟩⟩
  rw [create, Dialogue.result_bind_of_run (LocalKms.run_nonce _ _),
    Dialogue.result_bind_of_run (Dialogue.run_cut (by rw [hrandom]; omega)),
    Dialogue.result_bind_of_run (LocalKms.run_generate hgenerate),
    Dialogue.result_bind_of_run (LocalKms.run_unwrap hsystem),
    Dialogue.result_bind_of_run (Dialogue.run_liftM_of_ok hpair),
    Dialogue.result_bind_of_run (Dialogue.run_liftM_of_ok hkeyPair),
    Dialogue.result_bind_of_run (Dialogue.run_liftM_of_ok huserKey),
    Dialogue.result_bind_of_run (Dialogue.run_liftM_of_ok hmac),
    Dialogue.result_bind_of_run (Dialogue.run_note _)]
  rfl

end ChatKeys.Account
