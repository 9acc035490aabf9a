/-
  ChatKeys.Proofs.Account.Operations

  What each operation on an account can do, once for all: when it gives a result,
  and which.

    * `result_openKek_eq_ok_iff`, `result_unlock_eq_ok_iff`,
      `result_replaceClientKey_eq_ok_iff` — with the client key, and `openKek_of_mac_ne` with
      another one;
    * `of_create`, `result_resetPassword_eq_ok_iff`, `result_appointStaff_eq_ok_iff` —
      with any responder for the service;
    * `withClientKey_eq_ok_iff`, `exists_withClientKey_iff` — the only change of keys:
      another client key.
-/
import ChatKeys.Account
import ChatKeys.Proofs.Key.Derived
import ChatKeys.Proofs.Service.Running

namespace ChatKeys.Account

variable {a a' : Account} {kek c old new : Key}

/-! ## With the client key -/

theorem openKek_eq_checked (a : Account) (c : Key) :
    a.openKek c = c.checked a.nonce a.mac .accountUnlockRefused (a.userKey.unwrap c) := rfl

/-- The key-encrypting key is handed out to the client key whose code is kept,
    and is what the user key was wrapped from. -/
theorem result_openKek_eq_ok_iff :
    (a.openKek c).result = .ok kek ↔
      c.mac a.nonce = .ok a.mac ∧ kek.wrap c = .ok a.userKey := by
  rw [openKek_eq_checked, Key.result_checked_eq_ok_iff, Key.unwrap_eq_ok_iff]

/-- Another client key is refused. -/
theorem openKek_of_mac_ne {own : Bytes} (h : c.mac a.nonce = .ok own) (hne : own ≠ a.mac) :
    a.openKek c = .refuse .accountUnlockRefused .accessDenied :=
  Key.checked_of_mac_ne h hne

theorem result_unlock_eq_ok_iff {p : KeyPair} :
    (a.unlock c).result = .ok p ↔
      ∃ kek, (a.openKek c).result = .ok kek ∧ p.wrap kek = .ok a.keyPair := by
  rw [unlock, Logged.result_bind, bind_eq_ok_iff]
  simp only [← KeyPair.unwrap_eq_ok_iff, Logged.result_liftM]

theorem withClientKey_eq_ok_iff :
    a.withClientKey kek c = .ok a' ↔
      ∃ userKey mac, (kek.withIv (ivOfNonce a.nonce)).wrap c = .ok userKey ∧
        c.mac a.nonce = .ok mac ∧ a' = { a with userKey := userKey, mac := mac } := by
  simp only [withClientKey, bind_eq_ok_iff, pure_eq_ok_iff, exists_and_left]

/-- Any key of the cipher can become the client key, and any key in the clear can be kept
    under it. -/
theorem exists_withClientKey_iff :
    (∃ a', a.withClientKey kek c = .ok a') ↔ kek.isEncrypted = false ∧ c.isUsable = true := by
  simp only [withClientKey_eq_ok_iff]
  constructor
  · rintro ⟨_, userKey, _, hwrap, -, -⟩
    have hplain := Key.not_isEncrypted_of_wrap hwrap
    rw [Key.isEncrypted_withIv] at hplain
    exact ⟨hplain, Key.isUsable_of_wrap hwrap⟩
  · rintro ⟨hkek, hc⟩
    -- The vector is taken from the nonce, so it has the right size whatever the nonce is.
    obtain ⟨userKey, hwrap⟩ : ∃ w, (kek.withIv (ivOfNonce a.nonce)).wrap c = .ok w :=
      Key.exists_wrap_iff.mpr ⟨hkek, hc, length_ivOfNonce a.nonce⟩
    obtain ⟨secret, hsecret⟩ := Key.isUsable_iff.mp hc
    have hmac := Key.mac_of_secret (Key.secret_of_cipherSecret hsecret) a.nonce
    exact ⟨_, userKey, _, hwrap, hmac, rfl⟩

theorem result_replaceClientKey_eq_ok_iff :
    (a.replaceClientKey old new).result = .ok a' ↔
      ∃ kek, (a.openKek old).result = .ok kek ∧ a.withClientKey kek new = .ok a' := by
  rw [replaceClientKey, Logged.result_bind, bind_eq_ok_iff]
  simp only [Logged.result_liftM_eq_ok_iff]

/-! ## Through the service -/

variable {σ : Type} {r : Responder σ} {s : σ}

/-- A new account keeps the parameters that it is created with, and is not one of
    staff. -/
theorem of_create {password : String} {kdf : KdfParams}
    (h : ((create password kdf).run r s).result = .ok (a, c)) :
    a.kdf = kdf ∧ a.staffCapability = none := by
  simp only [create, Dialogue.run_bind_eq_ok_iff, Dialogue.run_pure] at h
  obtain ⟨_, -, ⟨nonce, secret⟩, -, _, -, _, -, _, -, _, -, _, -, _, -, _, -, h⟩ := h
  obtain ⟨rfl, -⟩ := Prod.mk.inj (Except.ok.inj h)
  exact ⟨rfl, rfl⟩

theorem result_resetPassword_eq_ok_iff {id : Snowflake} {authorization : ResetAuthorization}
    {password : String} :
    ((a.resetPassword id authorization password).run r s).result = .ok (a', c) ↔
      authorization.accountId = id ∧ c = a.clientKey password ∧
        ∃ kek, ((Dialogue.unwrap a.systemKey).run r s).result = .ok kek ∧
          a.withClientKey kek c = .ok a' := by
  rw [resetPassword]
  by_cases hid : authorization.accountId = id
  · rw [if_neg (not_not_intro hid)]
    simp only [Dialogue.run_bind_eq_ok_iff, Dialogue.run_liftM, Dialogue.run_note,
      Dialogue.run_pure, mapError_eq_ok_iff]
    constructor
    · rintro ⟨kek, hkek, account, haccount, _, -, h⟩
      obtain ⟨rfl, rfl⟩ := Prod.mk.inj (Except.ok.inj h)
      exact ⟨hid, rfl, kek, hkek, haccount⟩
    · rintro ⟨-, rfl, kek, hkek, haccount⟩
      exact ⟨kek, hkek, a', haccount, (), trivial, rfl⟩
  · rw [if_pos hid, Dialogue.run_bind_eq_ok_iff]
    constructor
    · rintro ⟨_, -, ⟨⟩⟩
    · rintro ⟨hid', -⟩
      exact absurd hid' hid

theorem result_appointStaff_eq_ok_iff {credential : Key} :
    ((a.appointStaff credential).run r s).result = .ok a' ↔
      ∃ capability, ((a.grant credential).run r s).result = .ok capability ∧
        a' = { a with staffCapability := some capability } := by
  simp only [appointStaff, Dialogue.run_bind_eq_ok_iff, Dialogue.run_note, Dialogue.run_pure]
  constructor
  · rintro ⟨capability, hgrant, _, -, h⟩
    exact ⟨capability, hgrant, (Except.ok.inj h).symm⟩
  · rintro ⟨capability, hgrant, rfl⟩
    exact ⟨capability, hgrant, (), trivial, rfl⟩

end ChatKeys.Account
