/-
  ChatKeys.Proofs.Service.Openings

  Whoever answers for the service, a new hierarchy opens.

  A service may answer with keys of the wrong type, with keys that are still wrapped,
  with too many or too few bytes, or each time with something else.  What an operation
  gives has got past everything that is made of these answers, and that is enough:

    * `Account.exchange_of_create`, `Room.exchange_of_create`,
      `Room.exchange_of_renewManagerKey` — what was asked and answered, where the answers
      are found in what is given, and what is wrapped under what;
    * `Account.unlock_of_wraps`, `Room.result_unlock_eq_ok_iff` — that much opens;
    * `new_hierarchies_open` — so what is given opens, to the very secret that the service
      was heard to send.

  No more can be had of a reset: the account goes on with whatever key the service says is
  its key-encrypting key, and opens if that key opens it (`Account.unlock_resetPassword_iff`).
-/
import ChatKeys.Proofs.Account.Hierarchy
import ChatKeys.Proofs.Room.Hierarchy
import ChatKeys.Proofs.Service.Exchanges

namespace ChatKeys

variable {σ : Type} {r : Responder σ} {s : σ}

/-! ## Accounts -/

namespace Account

variable {a a' : Account} {c kek : Key} {pair : KeyPair}

/-- What is wrapped under the key-encrypting key opens with the client key that this key is
    wrapped under. -/
theorem unlock_of_wraps (huserKey : (kek.withIv (ivOfNonce a.nonce)).wrap c = .ok a.userKey)
    (hmac : c.mac a.nonce = .ok a.mac) :
    (a.unlock c).result = .ok pair ↔ pair.wrap kek = .ok a.keyPair := by
  have hopen : (a.openKek c).result = .ok (kek.withIv (ivOfNonce a.nonce)) :=
    result_openKek_eq_ok_iff.mpr ⟨hmac, huserKey⟩
  rw [result_unlock_eq_ok_iff]
  constructor
  · rintro ⟨kek', hkek', hpair⟩
    obtain rfl := Except.ok.inj (hopen.symm.trans hkek')
    rwa [KeyPair.wrap_congr (Key.cipherSecret_withIv kek _)] at hpair
  · intro hpair
    refine ⟨_, hopen, ?_⟩
    rwa [KeyPair.wrap_congr (Key.cipherSecret_withIv kek _)]

/-- How a new account comes about: the service sends the nonce with the secret behind it,
    makes a system key for the nonce, and unwraps this key. -/
theorem exchange_of_create {password : String} {kdf : KdfParams}
    (h : ((create password kdf).run r s).result = .ok (a, c)) :
    ∃ (secret : KeyBytes) (kek : Key),
      (create password kdf).calls r s =
        [.nonce (nonceSize + KeyPair.privateKeySize) (.ok (a.nonce ++ secret.bytes)),
          .generate .xchacha20poly1305 ⟨contextScope, Base64.encode a.nonce⟩ (.ok a.systemKey),
          .unwrap a.systemKey (.ok kek)] ∧
      a.nonce.length = nonceSize ∧ c = a.clientKey password ∧
      ((KeyPair.ofKeyBytes secret).withIv (ivOfNonce a.nonce)).wrap kek = .ok a.keyPair ∧
      (kek.withIv (ivOfNonce a.nonce)).wrap c = .ok a.userKey ∧ c.mac a.nonce = .ok a.mac := by
  have hgives := Dialogue.gives_of_run h
  generalize (create password kdf).calls r s = calls at hgives ⊢
  simp only [create, Dialogue.gives_nonce_bind_iff, Dialogue.gives_cut_bind_iff,
    Dialogue.gives_generate_bind_iff, Dialogue.gives_unwrap_bind_iff,
    Dialogue.gives_liftM_bind_iff, Dialogue.gives_note_bind_iff, Dialogue.gives_pure_iff] at hgives
  obtain ⟨random, _, _, -, ⟨hlength, systemKey, _, _, -, ⟨kek, _, _, -, ⟨pair, hpair, keyPair,
    hkeyPair, userKey, huserKey, mac, hmac, hvalue, rfl⟩, rfl⟩, rfl⟩, rfl⟩ := hgives
  obtain ⟨rfl, rfl⟩ := Prod.mk.inj hvalue
  obtain ⟨secret, hsecret, rfl⟩ := KeyPair.ofSecret_eq_ok_iff.mp hpair
  refine ⟨secret, kek, ?_, List.length_take_of_le hlength, rfl, hkeyPair, huserKey, hmac⟩
  rw [hsecret, List.take_append_drop]

/-- After a reset the account opens with the new password if the key opens it that the
    service gave for the system key. -/
theorem unlock_resetPassword_iff {id : Snowflake} {authorization : ResetAuthorization}
    {password : String}
    (h : ((a.resetPassword id authorization password).run r s).result = .ok (a', c)) :
    ∃ kek, ((Dialogue.unwrap a.systemKey).run r s).result = .ok kek ∧
      ∀ pair, (a'.unlock c).result = .ok pair ↔ a.keyPair.unwrap kek = .ok pair := by
  obtain ⟨-, -, kek, hkek, hnew⟩ := result_resetPassword_eq_ok_iff.mp h
  obtain ⟨userKey, mac, huserKey, hmac, rfl⟩ := withClientKey_eq_ok_iff.mp hnew
  refine ⟨kek, hkek, fun pair => ?_⟩
  rw [KeyPair.unwrap_eq_ok_iff]
  exact unlock_of_wraps huserKey hmac

end Account

/-! ## Rooms -/

namespace Room

variable {room old : Room} {managerKey : Key} {pair : KeyPair}

theorem result_unlock_eq_ok_iff :
    (room.unlock managerKey).result = .ok pair ↔
      managerKey.mac room.keyPair.iv = .ok room.mac ∧
        pair.wrap managerKey = .ok room.keyPair := by
  rw [unlock_eq_checked, Key.result_checked_eq_ok_iff, KeyPair.unwrap_eq_ok_iff]

/-- How a new room comes about: the service sends the vector, the secret and the nonce in
    one, makes a key for the room's name, and unwraps it to the manager key. -/
theorem exchange_of_create {name : String} (h : ((create name).run r s).result = .ok room) :
    ∃ (secret : KeyBytes) (managerKey : Key),
      (create name).calls r s =
        [.nonce (ivSize + KeyPair.privateKeySize + roomNonceSize)
            (.ok (room.keyPair.iv ++ secret.bytes ++ room.nonce)),
          .generate .xchacha20poly1305 ⟨roomScope, name⟩ (.ok room.keyEncryptingKey),
          .unwrap room.keyEncryptingKey (.ok managerKey)] ∧
      room.keyPair.iv.length = ivSize ∧
      ((KeyPair.ofKeyBytes secret).withIv room.keyPair.iv).wrap managerKey = .ok room.keyPair ∧
      managerKey.mac room.keyPair.iv = .ok room.mac := by
  have hgives := Dialogue.gives_of_run h
  generalize (create name).calls r s = calls at hgives ⊢
  simp only [create, Dialogue.gives_nonce_bind_iff, Dialogue.gives_cut_bind_iff,
    Dialogue.gives_generate_bind_iff, Dialogue.gives_unwrap_bind_iff,
    Dialogue.gives_liftM_bind_iff, Dialogue.gives_note_bind_iff, Dialogue.gives_pure_iff] at hgives
  obtain ⟨random, _, _, -, ⟨hlength, -, keyEncryptingKey, _, _, -, ⟨managerKey, _, _, -, ⟨pair,
    hpair, keyPair, hkeyPair, mac, hmac, rfl, rfl⟩, rfl⟩, rfl⟩, rfl⟩ := hgives
  obtain ⟨secret, hsecret, rfl⟩ := KeyPair.ofSecret_eq_ok_iff.mp hpair
  -- The vector is kept with the pair that is wrapped.
  have hiv : keyPair.iv = random.take ivSize := KeyPair.iv_of_wrap hkeyPair
  refine ⟨secret, managerKey, ?_, ?_, ?_, hmac⟩
  · rw [hiv, hsecret, List.append_assoc, List.take_append_drop, List.take_append_drop]
  · rw [hiv]
    exact List.length_take_of_le hlength
  · rw [hiv]
    exact hkeyPair

/-- How a room comes to a new manager key: the service unwraps the key of the old room,
    sends a vector, makes another key for the room's name, and unwraps that. -/
theorem exchange_of_renewManagerKey (h : (old.renewManagerKey.run r s).result = .ok room) :
    ∃ (oldKey managerKey : Key) (pair : KeyPair),
      old.renewManagerKey.calls r s =
        [.unwrap old.keyEncryptingKey (.ok oldKey), .nonce ivSize (.ok room.keyPair.iv),
          .generate .xchacha20poly1305 ⟨roomScope, old.name⟩ (.ok room.keyEncryptingKey),
          .unwrap room.keyEncryptingKey (.ok managerKey)] ∧
      (old.unlock oldKey).result = .ok pair ∧
      (pair.withIv room.keyPair.iv).wrap managerKey = .ok room.keyPair ∧
      managerKey.mac room.keyPair.iv = .ok room.mac := by
  have hgives := Dialogue.gives_of_run h
  generalize old.renewManagerKey.calls r s = calls at hgives ⊢
  simp only [renewManagerKey, unlockThroughService, Room.managerKey, Dialogue.gives_bind_assoc,
    Dialogue.gives_nonce_bind_iff, Dialogue.gives_generate_bind_iff,
    Dialogue.gives_unwrap_bind_iff, Dialogue.gives_liftM_bind_iff, Dialogue.gives_logged_bind_iff,
    Dialogue.gives_note_bind_iff, Dialogue.gives_pure_iff] at hgives
  obtain ⟨oldKey, _, _, -, ⟨pair, hunlock, iv, _, _, -, ⟨keyEncryptingKey, _, _, -, ⟨managerKey,
    _, _, -, ⟨keyPair, hkeyPair, mac, hmac, rfl, rfl⟩, rfl⟩, rfl⟩, rfl⟩, rfl⟩ := hgives
  have hiv : keyPair.iv = iv := KeyPair.iv_of_wrap hkeyPair
  refine ⟨oldKey, managerKey, pair, ?_, hunlock, ?_, hmac⟩
  · rw [hiv]
  · rw [hiv]
    exact hkeyPair

end Room

/-! ## All together -/

/-- Whoever answers for the service: an account that is created opens with the client key
    that is given with it, to the pair of the secret that was sent behind the nonce. A room
    that is created opens with the key that the service unwrapped last, to the pair of the
    secret that was sent in between. A room with a new manager key opens with the key that
    the service unwrapped last, to the pair that the old room opened to. -/
theorem new_hierarchies_open (r : Responder σ) (s : σ) :
    (∀ password kdf a c, ((Account.create password kdf).run r s).result = .ok (a, c) →
      ∃ (secret : KeyBytes) (kek : Key),
        (Account.create password kdf).calls r s =
          [.nonce (Account.nonceSize + KeyPair.privateKeySize) (.ok (a.nonce ++ secret.bytes)),
            .generate .xchacha20poly1305 ⟨Account.contextScope, Base64.encode a.nonce⟩
              (.ok a.systemKey),
            .unwrap a.systemKey (.ok kek)] ∧
        a.nonce.length = Account.nonceSize ∧
        a.userKey.isEncrypted = true ∧ a.keyPair.isEncrypted = true ∧
        c = a.clientKey password ∧
        (a.unlock c).result = .ok ((KeyPair.ofKeyBytes secret).withIv (ivOfNonce a.nonce))) ∧
    (∀ name room, ((Room.create name).run r s).result = .ok room →
      ∃ (secret : KeyBytes) (managerKey : Key),
        (Room.create name).calls r s =
          [.nonce (ivSize + KeyPair.privateKeySize + roomNonceSize)
              (.ok (room.keyPair.iv ++ secret.bytes ++ room.nonce)),
            .generate .xchacha20poly1305 ⟨roomScope, name⟩ (.ok room.keyEncryptingKey),
            .unwrap room.keyEncryptingKey (.ok managerKey)] ∧
        room.keyPair.iv.length = ivSize ∧
        (room.unlock managerKey).result
          = .ok ((KeyPair.ofKeyBytes secret).withIv room.keyPair.iv)) ∧
    (∀ (old room : Room), (old.renewManagerKey.run r s).result = .ok room →
      ∃ (oldKey managerKey : Key) (pair : KeyPair),
        old.renewManagerKey.calls r s =
          [.unwrap old.keyEncryptingKey (.ok oldKey), .nonce ivSize (.ok room.keyPair.iv),
            .generate .xchacha20poly1305 ⟨roomScope, old.name⟩ (.ok room.keyEncryptingKey),
            .unwrap room.keyEncryptingKey (.ok managerKey)] ∧
        (old.unlock oldKey).result = .ok pair ∧
        (room.unlock managerKey).result = .ok (pair.withIv room.keyPair.iv)) := by
  refine ⟨?_, ?_, ?_⟩
  · intro password kdf a c h
    obtain ⟨secret, kek, hcalls, hlength, hclientKey, hkeyPair, huserKey, hmac⟩ :=
      Account.exchange_of_create h
    exact ⟨secret, kek, hcalls, hlength, Key.isEncrypted_of_wrap huserKey,
      KeyPair.isEncrypted_of_wrap hkeyPair, hclientKey,
      (Account.unlock_of_wraps huserKey hmac).mpr hkeyPair⟩
  · intro name room h
    obtain ⟨secret, managerKey, hcalls, hlength, hkeyPair, hmac⟩ := Room.exchange_of_create h
    exact ⟨secret, managerKey, hcalls, hlength, Room.result_unlock_eq_ok_iff.mpr ⟨hmac, hkeyPair⟩⟩
  · intro old room h
    obtain ⟨oldKey, managerKey, pair, hcalls, hunlock, hkeyPair, hmac⟩ :=
      Room.exchange_of_renewManagerKey h
    exact ⟨oldKey, managerKey, pair, hcalls, hunlock,
      Room.result_unlock_eq_ok_iff.mpr ⟨hmac, hkeyPair⟩⟩

/-- A service that wraps nothing and always gives the same key. -/
def careless : Responder Unit where
  nonce length s := (.ok (List.replicate length 7), s)
  generate _ _ s := (.ok exampleKey, s)
  unwrap _ s := (.ok exampleKey, s)
  time s := (.epoch, s)
  word s := (0, s)

/-- Even with a careless service an account opens that is created with it, and a room does.
    With a service that wraps what it should, the room also opens after its manager key is
    renewed. -/
theorem new_hierarchies_open_example :
    (∃ a c, ∃ secret : KeyBytes,
      ((Account.create "correct horse" .standard).run careless ()).result = .ok (a, c) ∧
      a.nonce ++ secret.bytes = List.replicate 56 7 ∧
      (a.unlock c).result = .ok ((KeyPair.ofKeyBytes secret).withIv (ivOfNonce a.nonce))) ∧
    (∃ room, ∃ secret : KeyBytes,
      ((Room.create "lobby").run careless ()).result = .ok room ∧
      room.keyPair.iv ++ secret.bytes ++ room.nonce = List.replicate 80 7 ∧
      (room.unlock exampleKey).result
        = .ok ((KeyPair.ofKeyBytes secret).withIv room.keyPair.iv)) ∧
    (∃ room room' managerKey pair,
      ((Room.create "lobby").run (⟨exampleKey, rfl⟩ : LocalKms).responder
        ⟨.epoch, fun _ => 0, 0⟩).result = .ok room ∧
      (room.renewManagerKey.run (⟨exampleKey, rfl⟩ : LocalKms).responder
        ⟨.epoch, fun _ => 0, 0⟩).result = .ok room' ∧
      (room'.unlock managerKey).result = .ok (KeyPair.withIv pair room'.keyPair.iv)) := by
  refine ⟨?_, ?_, ?_⟩
  · obtain ⟨a, c, hcreate⟩ : ∃ a c,
        ((Account.create "correct horse" .standard).run careless ()).result = .ok (a, c) :=
      ⟨_, _, rfl⟩
    obtain ⟨secret, kek, hcalls, -, -, -, -, hunlock⟩ :=
      (new_hierarchies_open careless ()).1 _ _ a c hcreate
    have hreply : ServiceCall.nonce 56 (.ok (List.replicate 56 7))
        = .nonce (Account.nonceSize + KeyPair.privateKeySize) (.ok (a.nonce ++ secret.bytes)) :=
      (List.cons.inj hcalls).1
    obtain ⟨-, hbytes⟩ := ServiceCall.nonce.inj hreply
    exact ⟨a, c, secret, hcreate, (Except.ok.inj hbytes).symm, hunlock⟩
  · obtain ⟨room, hcreate⟩ : ∃ room,
        ((Room.create "lobby").run careless ()).result = .ok room := ⟨_, rfl⟩
    obtain ⟨secret, managerKey, hcalls, -, hunlock⟩ :=
      (new_hierarchies_open careless ()).2.1 _ room hcreate
    obtain ⟨hreply, hlater⟩ := List.cons.inj hcalls
    obtain ⟨-, hbytes⟩ := ServiceCall.nonce.inj hreply
    -- The last of the calls is answered with the one key that this service has.
    obtain ⟨-, hkey⟩ := ServiceCall.unwrap.inj (List.cons.inj (List.cons.inj hlater).2).1
    obtain rfl : exampleKey = managerKey := Except.ok.inj hkey
    exact ⟨room, secret, hcreate, (Except.ok.inj hbytes).symm, hunlock⟩
  · let kms : LocalKms := ⟨exampleKey, rfl⟩
    let e : Environment := ⟨.epoch, fun _ => 0, 0⟩
    obtain ⟨room, _, _, hcreate, -, -, hk⟩ := Room.exists_create kms e "lobby"
    obtain ⟨_, mac, keyEncryptingKey, iv, material, hrenew, -⟩ := hk.exists_renewManagerKey rfl e
    obtain ⟨_, managerKey, pair, -, -, hunlock⟩ :=
      (new_hierarchies_open kms.responder e).2.2 room _ hrenew
    exact ⟨room, _, managerKey, pair, hcreate, hrenew, hunlock⟩

end ChatKeys
