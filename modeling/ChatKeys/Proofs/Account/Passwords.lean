/-
  ChatKeys.Proofs.Account.Passwords

  Which passwords open an account, and which passcodes a capability.

  A password opens what was made with another one if both derive the same key,
  which they do if HMAC takes them for the same key or if they collide
  (`Key.SamePasscode`).  Every other password is refused:

    * `result_unlock_of_same`, `result_unlock_of_other` — by an account, unless the
      two client keys collide at the account (`PasswordCollision`);
    * `redeemWithPasscode_of_same`, `redeemWithPasscode_of_other` — by a capability,
      unless the two derived keys collide at its payload.
-/
import ChatKeys.Proofs.Account.Hierarchy
import ChatKeys.Proofs.Capability
import ChatKeys.Proofs.Key.Context

namespace ChatKeys

namespace Key

/-- With an outer key of another secret a wrapped key is refused, unless the two
    secrets collide at what is wrapped. -/
theorem unwrap_of_ne {k w outer outer' : Key} {key key' : KeyBytes} (hw : k.wrap outer = .ok w)
    (hkey : outer.cipherSecret = .ok key) (hkey' : outer'.cipherSecret = .ok key')
    (hne : key.bytes ≠ key'.bytes) :
    w.unwrap outer' = .error .accessDenied ∨
      ∃ wrapped, w.ciphertext = .ok wrapped ∧
        XChaCha20Poly1305.KeyCollision key.bytes key'.bytes w.iv w.associatedData
          (XChaCha20Poly1305.withoutTag wrapped) := by
  obtain ⟨secret, _, -, hsame, hiv, rfl⟩ := wrap_eq_ok_iff.mp hw
  obtain rfl := Except.ok.inj (hkey.symm.trans hsame)
  rcases XChaCha20Poly1305.unwrap?_wrap_of_ne hne k.iv k.associatedData secret.bytes
    with hnone | hcollision
  · refine .inl ?_
    rw [unwrap_ofCiphertext hkey' hiv]
    -- The wrapped key has the labels of the key itself.
    have hlabels : (ofCiphertext k.type k.iv (XChaCha20Poly1305.wrap key.bytes k.iv
        k.associatedData secret.bytes) k.context).associatedData = k.associatedData := rfl
    rw [hlabels, hnone]
  · exact .inr ⟨_, rfl, hcollision⟩

end Key

/-! ## Accounts -/

namespace Account

variable {kms : LocalKms} {kek c : Key} {pair : KeyPair} {a : Account} {password other : String}

/-- The bytes of the client key of a password. -/
def derived (a : Account) (password : String) : Bytes :=
  (Key.passcodeSecret (Bytes.ofString password) a.nonce a.kdf).bytes

/-- At the account one password passes for another, though they derive different
    client keys: both give the nonce the same code, and both give the user key the
    same tag. -/
structure PasswordCollision (a : Account) (password other : String) : Prop where
  code : Hmac.Collision (a.derived password) (a.derived other) a.nonce
  tag : ∃ wrapped, a.userKey.ciphertext = .ok wrapped ∧
    XChaCha20Poly1305.KeyCollision (a.derived password) (a.derived other) a.userKey.iv
      a.userKey.associatedData (XChaCha20Poly1305.withoutTag wrapped)

theorem result_unlock_of_denied (h : (a.openKek c).result = .error .accessDenied) :
    (a.unlock c).result = .error .accessDenied := by
  rw [unlock, Logged.result_bind, h]
  rfl

theorem result_unlock_of_same (hk : Hierarchy kms kek pair a (a.clientKey password))
    (h : Key.SamePasscode a.nonce a.kdf (Bytes.ofString password) (Bytes.ofString other)) :
    (a.unlock (a.clientKey other)).result = .ok pair := by
  have hclientKey : a.clientKey other = a.clientKey password := Key.ofPasscode_of_same h
  rw [hclientKey]
  exact hk.unlock

theorem result_unlock_of_other (hk : Hierarchy kms kek pair a (a.clientKey password))
    (h : ¬ Key.SamePasscode a.nonce a.kdf (Bytes.ofString password) (Bytes.ofString other)) :
    (a.unlock (a.clientKey other)).result = .error .accessDenied ∨
      PasswordCollision a password other := by
  have hne : a.derived password ≠ a.derived other := Key.passcodeSecret_ne h
  have hcipher : ∀ p : String, (a.clientKey p).cipherSecret
      = .ok (Key.passcodeSecret (Bytes.ofString p) a.nonce a.kdf) := fun _ => rfl
  have hmac : a.mac = Hmac.mac (a.derived password) a.nonce := (Except.ok.inj hk.mac).symm
  have hother : (a.clientKey other).mac a.nonce = .ok (Hmac.mac (a.derived other) a.nonce) := rfl
  have hopen : (a.openKek (a.clientKey other)).result
      = if Hmac.mac (a.derived other) a.nonce = a.mac then a.userKey.unwrap (a.clientKey other)
        else .error .accessDenied := by
    rw [openKek_eq_checked, Key.result_checked_of_mac hother]
  by_cases hcode : Hmac.mac (a.derived other) a.nonce = a.mac
  · -- The code lets the other client key pass, so the tag of the user key has to tell.
    rw [if_pos hcode] at hopen
    rcases Key.unwrap_of_ne hk.userKey (hcipher _) (hcipher _) hne with hdenied | htag
    · rw [hdenied] at hopen
      exact .inl (result_unlock_of_denied hopen)
    · -- Client keys fill less than a block, so as keys of HMAC they differ too.
      have hblock : Hmac.blockKey (a.derived password) ≠ Hmac.blockKey (a.derived other) :=
        fun heq => hne (Hmac.blockKey_inj (by simp [derived, KeyBytes.length_bytes])
          (by simp [derived, KeyBytes.length_bytes, keySize, Sha256.blockSize]) heq)
      exact .inr ⟨⟨hblock, (hcode.trans hmac).symm⟩, htag⟩
  · rw [if_neg hcode] at hopen
    exact .inl (result_unlock_of_denied hopen)

end Account

/-! ## Capabilities -/

namespace Capability

variable {passcode other salt iv : Bytes} {kdf : KdfParams} {k : Key} {c : Capability}

theorem redeemWithPasscode_of_same (hc : issueForPasscode passcode salt kdf iv k = .ok c)
    (h : Key.SamePasscode salt kdf passcode other) :
    c.redeemWithPasscode other salt kdf = .ok k.bare := by
  rw [redeemWithPasscode, Key.ofPasscode_of_same h]
  exact redeem_issue hc rfl

theorem redeemWithPasscode_of_other (hc : issueForPasscode passcode salt kdf iv k = .ok c)
    (h : ¬ Key.SamePasscode salt kdf passcode other) :
    c.redeemWithPasscode other salt kdf = .error .accessDenied ∨
      XChaCha20Poly1305.KeyCollision (Key.passcodeSecret passcode salt kdf).bytes
        (Key.passcodeSecret other salt kdf).bytes iv associatedData
        (XChaCha20Poly1305.withoutTag c.payload) :=
  redeem_issue_of_ne hc rfl rfl (Key.passcodeSecret_ne h)

end Capability

namespace Account

/-- A new account opens with every password that is the same passcode as its own, and
    refuses every other, short of a collision. The same is true of a key that is
    sealed to a passcode. Up to the size of a block, the passcodes that are the same
    for HMAC are those that differ in zero bytes at the end; a longer one is the same as
    its digest. -/
theorem only_same_passcode_opens (kdf : KdfParams) :
    (∀ (kms : LocalKms) (e : Environment) (password : String),
      ∃ a pair, ((create password kdf).run kms.responder e).result
          = .ok (a, a.clientKey password) ∧
        KeyPair.ofSecret ((e.draw (nonceSize + KeyPair.privateKeySize)).1.drop nonceSize)
          = .ok pair ∧
        ∀ other,
          (Key.SamePasscode a.nonce kdf (Bytes.ofString password) (Bytes.ofString other) →
            (a.unlock (a.clientKey other)).result = .ok (pair.withIv (ivOfNonce a.nonce))) ∧
          (¬ Key.SamePasscode a.nonce kdf (Bytes.ofString password) (Bytes.ofString other) →
            (a.unlock (a.clientKey other)).result = .error .accessDenied ∨
              PasswordCollision a password other)) ∧
    (∀ (passcode salt iv : Bytes) (k : Key),
      iv.length = ivSize → k.isEncrypted = false →
      ∃ c, Capability.issueForPasscode passcode salt kdf iv k = .ok c ∧
        ∀ other,
          (Key.SamePasscode salt kdf passcode other →
            c.redeemWithPasscode other salt kdf = .ok k.bare) ∧
          (¬ Key.SamePasscode salt kdf passcode other →
            c.redeemWithPasscode other salt kdf = .error .accessDenied ∨
              XChaCha20Poly1305.KeyCollision (Key.passcodeSecret passcode salt kdf).bytes
                (Key.passcodeSecret other salt kdf).bytes iv Capability.associatedData
                (XChaCha20Poly1305.withoutTag c.payload))) ∧
    (∀ passcode other : Bytes,
      passcode.length ≤ Sha256.blockSize → other.length ≤ Sha256.blockSize →
      (Hmac.blockKey passcode = Hmac.blockKey other ↔
        ∃ n, other = passcode ++ List.replicate n 0 ∨ passcode = other ++ List.replicate n 0)) ∧
    ∀ passcode : Bytes, Sha256.blockSize < passcode.length →
      Hmac.blockKey (Sha256.hash passcode) = Hmac.blockKey passcode := by
  refine ⟨?_, ?_, fun _ _ => Hmac.blockKey_eq_iff, fun _ => Hmac.blockKey_hash⟩
  · intro kms e password
    obtain ⟨a, kek, pair, hcreate, hpair, hk⟩ := exists_create kms e password kdf
    obtain ⟨rfl, -⟩ := of_create hcreate
    exact ⟨a, pair, hcreate, hpair, fun other =>
      ⟨result_unlock_of_same hk, result_unlock_of_other hk⟩⟩
  · intro passcode salt iv k hiv hplain
    obtain ⟨c, hc⟩ : ∃ c, Capability.issueForPasscode passcode salt kdf iv k = .ok c :=
      Capability.exists_issue rfl hiv hplain
    exact ⟨c, hc, fun other =>
      ⟨Capability.redeemWithPasscode_of_same hc, Capability.redeemWithPasscode_of_other hc⟩⟩

/-- A zero byte behind the password makes no difference to an account, nor behind the
    passcode to a capability; and a passcode of sixty-five bytes is the same as its
    digest. -/
theorem only_same_passcode_opens_example :
    Key.SamePasscode (List.replicate nonceSize 0) ⟨1⟩ (Bytes.ofString "hunter22")
        (Bytes.ofString "hunter22\x00") ∧
      (List.replicate ivSize (0 : UInt8)).length = ivSize ∧ exampleKey.isEncrypted = false ∧
      (Bytes.ofString "hunter22").length ≤ Sha256.blockSize ∧
      (Bytes.ofString "hunter22\x00").length ≤ Sha256.blockSize ∧
      Hmac.blockKey (Bytes.ofString "hunter22") = Hmac.blockKey (Bytes.ofString "hunter22\x00") ∧
      Sha256.blockSize < (List.replicate 65 (0x61 : UInt8)).length ∧
      Hmac.blockKey (Sha256.hash (List.replicate 65 0x61)) = Hmac.blockKey (List.replicate 65 0x61) ∧
      (∃ a, ∃ pair : KeyPair, ((create "hunter22" ⟨1⟩).run
            (⟨exampleKey, rfl⟩ : LocalKms).responder ⟨.epoch, fun _ => 0, 0⟩).result
          = .ok (a, a.clientKey "hunter22") ∧
        (a.unlock (a.clientKey "hunter22\x00")).result
          = .ok (pair.withIv (ivOfNonce a.nonce))) ∧
      ∃ c, Capability.issueForPasscode (Bytes.ofString "hunter22") (List.replicate nonceSize 0) ⟨1⟩
          (List.replicate ivSize 0) exampleKey = .ok c ∧
        c.redeemWithPasscode (Bytes.ofString "hunter22\x00") (List.replicate nonceSize 0) ⟨1⟩
          = .ok exampleKey.bare := by
  obtain ⟨haccounts, hcapabilities, hblocks, hlong⟩ := only_same_passcode_opens ⟨1⟩
  have hsame : ∀ salt kdf, Key.SamePasscode salt kdf (Bytes.ofString "hunter22")
      (Bytes.ofString "hunter22\x00") :=
    fun _ _ => Key.samePasscode_append_zeros (n := 1) (by decide)
  obtain ⟨a, pair, hcreate, -, hunlock⟩ :=
    haccounts ⟨exampleKey, rfl⟩ ⟨.epoch, fun _ => 0, 0⟩ "hunter22"
  obtain ⟨c, hissue, hredeem⟩ := hcapabilities (Bytes.ofString "hunter22")
    (List.replicate nonceSize 0) (List.replicate ivSize 0) exampleKey rfl rfl
  have hblock : Hmac.blockKey (Bytes.ofString "hunter22")
      = Hmac.blockKey (Bytes.ofString "hunter22\x00") :=
    (hblocks _ _ (by decide) (by decide)).mpr ⟨1, .inl (by decide)⟩
  exact ⟨hsame _ _, rfl, rfl, by decide, by decide, hblock, by decide, hlong _ (by decide),
    ⟨a, pair, hcreate, (hunlock _).1 (hsame _ _)⟩, c, hissue, (hredeem _).1 (hsame _ _)⟩

/-- With a zero byte behind it a password of an account is another password, and still
    opens it. So does a passcode. -/
theorem not_only_password_opens :
    ¬ (∀ (kms : LocalKms) (e : Environment) (password other : String) (kdf : KdfParams)
        (a : Account) (c : Key), ((create password kdf).run kms.responder e).result = .ok (a, c) →
        other ≠ password → (a.unlock (a.clientKey other)).result = .error .accessDenied) ∧
      ¬ ∀ (passcode other salt iv : Bytes) (kdf : KdfParams) (k : Key) (c : Capability),
        Capability.issueForPasscode passcode salt kdf iv k = .ok c → other ≠ passcode →
        c.redeemWithPasscode other salt kdf = .error .accessDenied := by
  have hsame : ∀ salt kdf, Key.SamePasscode salt kdf (Bytes.ofString "hunter22")
      (Bytes.ofString "hunter22\x00") :=
    fun _ _ => Key.samePasscode_append_zeros (n := 1) (by decide)
  constructor
  · intro hdenies
    obtain ⟨a, kek, pair, hcreate, -, hk⟩ :=
      exists_create ⟨exampleKey, rfl⟩ ⟨.epoch, fun _ => 0, 0⟩ "hunter22" ⟨1⟩
    have hdenied := hdenies _ _ _ "hunter22\x00" _ _ _ hcreate (by decide)
    rw [result_unlock_of_same hk (hsame _ _)] at hdenied
    cases hdenied
  · intro hdenies
    obtain ⟨c, hc⟩ : ∃ c, Capability.issueForPasscode (Bytes.ofString "hunter22") [] ⟨1⟩
        (List.replicate ivSize 0) exampleKey = .ok c :=
      Capability.exists_issue rfl rfl rfl
    have hdenied := hdenies _ (Bytes.ofString "hunter22\x00") _ _ _ _ _ hc (by decide)
    rw [Capability.redeemWithPasscode_of_same hc (hsame _ _)] at hdenied
    cases hdenied

end Account

end ChatKeys
