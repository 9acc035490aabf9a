/-
  ChatKeys.Proofs.Account.Replacement

  What another client key changes about an account, and what it does not.

  Nothing is assumed of the account: its nonce may have any length, its keys any type and
  any vector, and the key pair need not open at all.  Whatever the old client key was good
  for before, the new one is good for afterwards, and what the old one was refused the new
  one is refused for the same reason.

    * `exists_replaceClientKey_iff` — when a client key can be replaced;
    * `SameAccess.of_replaceClientKey` — what one replacement preserves, and from it
      `Replaced.sameAccess`, what any number of them preserve;
    * `unlock_of_replaced` — what the old client key is told afterwards;
    * `replacement_moves_access` — all of it.
-/
import ChatKeys.Proofs.Account.Operations
import ChatKeys.Proofs.Capability

namespace ChatKeys.Account

variable {a b : Account} {kek c d old new : Key}

/-! ## With the key-encrypting key at hand -/

/-- A client key that is let in is told the key-encrypting key, and nothing is reported. -/
theorem openKek_of_ok (h : (a.openKek c).result = .ok kek) : a.openKek c = pure kek :=
  Key.checked_of_ok h

theorem unlock_of_openKek (h : a.openKek c = pure kek) :
    a.unlock c = .ofExcept (a.keyPair.unwrap kek) := by
  rw [unlock, h]
  rfl

theorem redeemGrant_of_openKek (h : a.openKek c = pure kek) (g : Capability) :
    a.redeemGrant c g = .ofExcept (g.redeem kek) := by
  rw [redeemGrant, h]
  rfl

/-! ## Replacing the client key -/

/-- The client key can be replaced by anyone who has it, if it opens the user key, with any
    key of the cipher. Whether the key pair opens is not asked. -/
theorem exists_replaceClientKey_iff :
    (∃ b, (a.replaceClientKey old new).result = .ok b) ↔
      old.checkMac a.nonce a.mac = .ok true ∧ (∃ kek, a.userKey.unwrap old = .ok kek) ∧
        new.isUsable = true := by
  simp only [result_replaceClientKey_eq_ok_iff, result_openKek_eq_ok_iff,
    Key.checkMac_eq_ok_true_iff, Key.unwrap_eq_ok_iff]
  constructor
  · rintro ⟨b, kek, ⟨hmac, hwrap⟩, hwith⟩
    exact ⟨hmac, ⟨kek, hwrap⟩, (exists_withClientKey_iff.mp ⟨b, hwith⟩).2⟩
  · rintro ⟨hmac, ⟨kek, hwrap⟩, hnew⟩
    have hplain := Key.not_isEncrypted_of_wrap hwrap
    obtain ⟨b, hwith⟩ := exists_withClientKey_iff.mpr ⟨hplain, hnew⟩
    exact ⟨b, kek, ⟨hmac, hwrap⟩, hwith⟩

/-- Only the user key and the code are other ones. -/
theorem eq_of_replaceClientKey (h : (a.replaceClientKey old new).result = .ok b) :
    b = { a with userKey := b.userKey, mac := b.mac } := by
  obtain ⟨kek, -, hwith⟩ := result_replaceClientKey_eq_ok_iff.mp h
  obtain ⟨userKey, mac, -, -, rfl⟩ := withClientKey_eq_ok_iff.mp hwith
  rfl

/-- The two client keys open one and the same key-encrypting key, up to its vector. -/
theorem openKek_of_replaceClientKey (h : (a.replaceClientKey old new).result = .ok b) :
    ∃ kek, a.openKek old = pure kek ∧ b.openKek new = pure (kek.withIv (ivOfNonce a.nonce)) := by
  obtain ⟨kek, hopen, hwith⟩ := result_replaceClientKey_eq_ok_iff.mp h
  obtain ⟨userKey, mac, huserKey, hmac, rfl⟩ := withClientKey_eq_ok_iff.mp hwith
  exact ⟨kek, openKek_of_ok hopen,
    openKek_of_ok (result_openKek_eq_ok_iff.mpr ⟨hmac, huserKey⟩)⟩

/-- What one client key gets from one account, and is refused by it, is what the other gets
    from the other and is refused, with the same reports. -/
structure SameAccess (a : Account) (c : Key) (b : Account) (d : Key) : Prop where
  unlock : b.unlock d = a.unlock c
  redeemGrant : ∀ g, b.redeemGrant d g = a.redeemGrant c g
  staffCredential : b.staffCredential d = a.staffCredential c

namespace SameAccess

theorem refl (a : Account) (c : Key) : SameAccess a c a c := ⟨rfl, fun _ => rfl, rfl⟩

theorem trans {a' : Account} {c' : Key} (h : SameAccess a c b d) (h' : SameAccess b d a' c') :
    SameAccess a c a' c' where
  unlock := h'.unlock.trans h.unlock
  redeemGrant g := (h'.redeemGrant g).trans (h.redeemGrant g)
  staffCredential := h'.staffCredential.trans h.staffCredential

/-- A replacement takes nothing away and adds nothing. -/
theorem of_replaceClientKey (h : (a.replaceClientKey old new).result = .ok b) :
    SameAccess a old b new := by
  obtain ⟨kek, hold, hnew⟩ := openKek_of_replaceClientKey h
  have hsecret : (kek.withIv (ivOfNonce a.nonce)).cipherSecret = kek.cipherSecret :=
    Key.cipherSecret_withIv kek _
  have hb := eq_of_replaceClientKey h
  have hkeyPair : b.keyPair = a.keyPair := by rw [hb]
  have hstaff : b.staffCapability = a.staffCapability := by rw [hb]
  have hgrant : ∀ g, b.redeemGrant new g = a.redeemGrant old g := by
    intro g
    rw [redeemGrant_of_openKek hnew, redeemGrant_of_openKek hold, Capability.redeem_congr hsecret]
  refine ⟨?_, hgrant, ?_⟩
  · rw [unlock_of_openKek hnew, unlock_of_openKek hold, hkeyPair, KeyPair.unwrap_congr hsecret]
  · rw [Account.staffCredential, Account.staffCredential, hstaff]
    cases a.staffCapability with
    | none => rfl
    | some g => exact hgrant g

end SameAccess

/-- One account comes of another by replacing the client key any number of times. -/
inductive Replaced (a : Account) (c : Key) : Account → Key → Prop where
  | refl : Replaced a c a c
  | replace {b b' : Account} {d d' : Key} : Replaced a c b d →
      (b.replaceClientKey d d').result = .ok b' → Replaced a c b' d'

/-- However often the client key was replaced, the last one is as good as the first. -/
theorem Replaced.sameAccess (h : Replaced a c b d) : SameAccess a c b d := by
  induction h with
  | refl => exact .refl a c
  | replace _ hreplace ih => exact ih.trans (.of_replaceClientKey hreplace)

/-! ## The old client key -/

/-- The old client key is denied, unless the new one happens to have its code. -/
theorem unlock_of_replaced (h : (a.replaceClientKey old new).result = .ok b) :
    ∃ before after, old.secret = .ok before ∧ new.secret = .ok after ∧
      (Hmac.mac before.bytes a.nonce ≠ Hmac.mac after.bytes a.nonce →
        b.unlock old = .refuse .accountUnlockRefused .accessDenied) := by
  obtain ⟨kek, hopen, hwith⟩ := result_replaceClientKey_eq_ok_iff.mp h
  obtain ⟨userKey, mac, huserKey, hmac, hb⟩ := withClientKey_eq_ok_iff.mp hwith
  -- Both keys are keys of the cipher, since each of them wraps the key-encrypting key.
  obtain ⟨_, before, -, hold, -⟩ := Key.wrap_eq_ok_iff.mp (result_openKek_eq_ok_iff.mp hopen).2
  obtain ⟨_, after, -, hnew, -⟩ := Key.wrap_eq_ok_iff.mp huserKey
  have hbefore := Key.secret_of_cipherSecret hold
  have hafter := Key.secret_of_cipherSecret hnew
  have hnonce : b.nonce = a.nonce := by rw [hb]
  have hcode : b.mac = Hmac.mac after.bytes a.nonce := by
    rw [hb]
    exact Except.ok.inj (hmac.symm.trans (Key.mac_of_secret hafter a.nonce))
  refine ⟨before, after, hbefore, hafter, fun hne => ?_⟩
  have hdenied : b.openKek old = .refuse .accountUnlockRefused .accessDenied := by
    refine openKek_of_mac_ne (Key.mac_of_secret hbefore b.nonce) ?_
    rwa [hcode, hnonce]
  rw [unlock, hdenied]
  rfl

/-- Replacing the client key moves access as a whole, whatever the account is like. It
    succeeds exactly if the old client key has the account's code and opens the user key, and
    the new one is a key of the cipher. Then only the user key and the code change. With the
    new client key everything is answered as it was with the old one before, refusals
    included: the key pair, every grant, and the credential of staff. The old client key is
    denied, if the codes that the two keys give the nonce are different. -/
theorem replacement_moves_access (a : Account) (old new : Key) :
    ((∃ b, (a.replaceClientKey old new).result = .ok b) ↔
      old.checkMac a.nonce a.mac = .ok true ∧ (∃ kek, a.userKey.unwrap old = .ok kek) ∧
        new.isUsable = true) ∧
    ∀ b, (a.replaceClientKey old new).result = .ok b →
      b = { a with userKey := b.userKey, mac := b.mac } ∧
      b.unlock new = a.unlock old ∧
      (∀ c, b.redeemGrant new c = a.redeemGrant old c) ∧
      b.staffCredential new = a.staffCredential old ∧
      ∃ before after, old.secret = .ok before ∧ new.secret = .ok after ∧
        (Hmac.mac before.bytes a.nonce ≠ Hmac.mac after.bytes a.nonce →
          (b.unlock old).result = .error .accessDenied) := by
  refine ⟨exists_replaceClientKey_iff, fun b hb => ?_⟩
  have hsame := SameAccess.of_replaceClientKey hb
  obtain ⟨before, after, hbefore, hafter, hdenied⟩ := unlock_of_replaced hb
  refine ⟨eq_of_replaceClientKey hb, hsame.unlock, hsame.redeemGrant, hsame.staffCredential,
    before, after, hbefore, hafter, fun hne => ?_⟩
  rw [hdenied hne]
  rfl

/-- An account that no service made: the user key has a foreign vector, and the system key and
    the key pair are not wrapped at all. Its client key, of ones, is replaced by one of twos.
    The pair is missed in the same way before and after, and the old client key is denied. -/
theorem replacement_moves_access_example :
    ∃ a b : Account, ∃ new : Key,
      (a.replaceClientKey exampleKey new).result = .ok b ∧
      b.unlock new = a.unlock exampleKey ∧
      (b.unlock new).result = .error (.keyState .alreadyDecrypted) ∧
      (b.unlock exampleKey).result = .error .accessDenied := by
  let nonce : Bytes := List.replicate ivSize 2
  let kek : Key := exampleKey.withIv (List.replicate ivSize 9)
  let new : Key := .ofSecret .xchacha20poly1305 ⟨List.replicate keySize 2, rfl⟩
  obtain ⟨userKey, huserKey⟩ : ∃ w, kek.wrap exampleKey = .ok w :=
    Key.exists_wrap rfl rfl (List.length_replicate ..)
  let a : Account :=
    { nonce := nonce, mac := Hmac.mac (List.replicate keySize 1) nonce, kdf := .standard,
      systemKey := exampleKey, userKey := userKey, keyPair := ⟨[], exampleKey⟩,
      staffCapability := none }
  have hmac : exampleKey.mac a.nonce = .ok a.mac := rfl
  have hopen : a.openKek exampleKey = pure kek :=
    openKek_of_ok (result_openKek_eq_ok_iff.mpr ⟨hmac, huserKey⟩)
  obtain ⟨hreplace, hmoves⟩ := replacement_moves_access a exampleKey new
  obtain ⟨b, hb⟩ := hreplace.mpr ⟨Key.checkMac_eq_ok_true_iff.mpr hmac,
    ⟨kek, Key.unwrap_eq_ok_iff.mpr huserKey⟩, rfl⟩
  obtain ⟨-, hunlock, -, -, _, _, ⟨⟩, ⟨⟩, hdenied⟩ := hmoves b hb
  refine ⟨a, b, new, hb, hunlock, ?_, hdenied Hmac.mac_ne_example⟩
  rw [hunlock, unlock_of_openKek hopen]
  rfl

end ChatKeys.Account
