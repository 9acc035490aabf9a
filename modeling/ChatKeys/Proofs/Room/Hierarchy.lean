/-
  ChatKeys.Proofs.Room.Hierarchy

  How the keys of a room hang together.

  The service unwraps the key-encrypting key to the manager key, the manager key
  unwraps the room's key pair, and its code of the pair's vector is the room's own.
  `Room.Hierarchy` says so for a manager key and a pair in the clear.

    * `exists_create` — a new room has this hierarchy;
    * `Hierarchy.unlock`, `Hierarchy.run_unlockThroughService` — what it is good for;
    * `exists_issued` — a message key is always renewed, and the service opens it;
    * `Hierarchy.exists_renewManagerKey`, `Hierarchy.exists_renewMessageKey` — the
      hierarchy goes on with another manager key, and with another message key.

  A new room and a new manager key come about in the same way, by
  `exists_managerKey`: a fresh manager key, the pair wrapped under it, and its code.
-/
import ChatKeys.Proofs.Room.Stored
import ChatKeys.Proofs.Key.Derived
import ChatKeys.Proofs.Service.Running

namespace ChatKeys

variable {kms : LocalKms} {managerKey k : Key} {pair : KeyPair} {r r' : Room}

namespace KeyPair

variable {p q q' : KeyPair} {outer outer' : Key} {iv iv' : Bytes}

/-- The pair of a secret of the right size. -/
def ofKeyBytes (secret : KeyBytes) : KeyPair :=
  ⟨X25519.publicKey secret.bytes, .ofSecret .x25519 secret⟩

/-- A pair with its private half in another wrapping. -/
def rewrapped (p : KeyPair) (iv : Bytes) (material : Material) : KeyPair :=
  { p with privateKey := { p.privateKey with iv := iv, material := material } }

/-- Two wrappings of one pair differ in vector and material only. -/
theorem eq_rewrapped_of_wrap (h : (p.withIv iv).wrap outer = .ok q)
    (h' : (p.withIv iv').wrap outer' = .ok q') :
    q' = q.rewrapped iv' q'.privateKey.material := by
  obtain ⟨key, hkey, rfl⟩ := wrap_eq_ok_iff.mp h
  obtain ⟨key', hkey', rfl⟩ := wrap_eq_ok_iff.mp h'
  obtain ⟨_, _, -, -, -, rfl⟩ := Key.wrap_eq_ok_iff.mp hkey
  obtain ⟨_, _, -, -, -, rfl⟩ := Key.wrap_eq_ok_iff.mp hkey'
  rfl

end KeyPair

namespace MessageKey

/-- The name of a message key that is issued in some environment: the next identifier behind
    the nonce, the secret and the vector of the key. -/
def idIn (e : Environment) : KeyId :=
  ⟨((((e.draw roomNonceSize).2.draw keySize).2.draw ivSize).2.freshSnowflake).1.text⟩

/-- The message key was issued in some environment, for a key of the cipher that the
    service opens it to. -/
structure IsIssued (kms : LocalKms) (e : Environment) (m : MessageKey) (k : Key) : Prop where
  unwrap : kms.unwrap m.key = .ok k
  isUsable : k.isUsable = true
  issuedAt : m.issuedAt = e.clock
  id : m.id = idIn e

/-- A message key can always be issued, for a key that is bound to the room. -/
theorem exists_issue (kms : LocalKms) (room : String) (e : Environment) :
    ∃ m k later, (issue room).run kms.responder e = ⟨.ok m, [], later⟩ ∧ m.IsIssued kms e k ∧
      k.context = some ⟨roomScope, room⟩ := by
  obtain ⟨k, w, later, hgenerate, hunwrap, htype, hcontext, hplain⟩ :=
    kms.exists_generate .xchacha20poly1305 ⟨roomScope, room⟩ (e.draw roomNonceSize).2
  have husable : k.isUsable = true := by rw [Key.isUsable, htype, hplain]; rfl
  -- All that goes on in between is that random bytes are drawn.
  obtain rfl : later = (((e.draw roomNonceSize).2.draw keySize).2.draw ivSize).2 := by
    rw [← kms.snd_generate .xchacha20poly1305 ⟨roomScope, room⟩ (e.draw roomNonceSize).2, hgenerate]
  let later := (((e.draw roomNonceSize).2.draw keySize).2.draw ivSize).2
  let m : MessageKey :=
    { id := ⟨(Snowflake.ofTime later.clock later.drawWord.1).text⟩
      issuedAt := later.drawWord.2.clock
      nonce := (e.draw roomNonceSize).1
      key := w }
  refine ⟨m, k, later.drawWord.2, ?_, ⟨hunwrap, husable, rfl, rfl⟩, hcontext⟩
  refine Dialogue.run_bind_of_run (LocalKms.run_nonce _ _) ?_
  refine Dialogue.run_bind_of_run (LocalKms.run_generate hgenerate) ?_
  refine Dialogue.run_bind_of_run LocalKms.run_freshSnowflake ?_
  refine Dialogue.run_bind_of_run LocalKms.run_now ?_
  exact Dialogue.run_pure m

end MessageKey

namespace Room

/-! ## The hierarchy -/

/-- The room's keys lead from the service's master key to a manager key, and from there
    to a key pair. Whatever the service keeps for the room is bound to its name. -/
structure Hierarchy (kms : LocalKms) (managerKey : Key) (pair : KeyPair) (r : Room) : Prop where
  keyEncryptingKey : kms.unwrap r.keyEncryptingKey = .ok managerKey
  context : managerKey.context = some ⟨roomScope, r.name⟩
  keyPair : (pair.withIv r.keyPair.iv).wrap managerKey = .ok r.keyPair
  mac : managerKey.mac r.keyPair.iv = .ok r.mac
  messageKey : ∀ m, r.messageKey = some m →
    m.IsStorable ∧ m.key.context = some ⟨roomScope, r.name⟩

theorem unlock_eq_checked (r : Room) (k : Key) :
    r.unlock k = k.checked r.keyPair.iv r.mac (.roomUnlockRefused r.name) (r.keyPair.unwrap k) :=
  rfl

/-- A key with another code than the room's is denied. -/
theorem result_unlock_of_mac_ne {own : Bytes} (h : k.mac r.keyPair.iv = .ok own)
    (hne : own ≠ r.mac) : (r.unlock k).result = .error .accessDenied := by
  rw [unlock_eq_checked, Key.result_checked_of_mac h, if_neg hne]

namespace Hierarchy

theorem isStorable (h : Hierarchy kms managerKey pair r) : r.IsStorable where
  keyEncryptingKey := Key.isEncrypted_of_wrap (LocalKms.unwrap_eq_ok_iff.mp h.keyEncryptingKey)
  keyPair := KeyPair.isEncrypted_of_wrap h.keyPair
  messageKey m hm := (h.messageKey m hm).1

theorem context_keyEncryptingKey (h : Hierarchy kms managerKey pair r) :
    r.keyEncryptingKey.context = some ⟨roomScope, r.name⟩ :=
  (Key.context_of_wrap (LocalKms.unwrap_eq_ok_iff.mp h.keyEncryptingKey)).trans h.context

theorem publicKey (h : Hierarchy kms managerKey pair r) :
    r.keyPair.publicKey = pair.publicKey := by
  rw [KeyPair.publicKey_of_wrap h.keyPair]
  rfl

/-- Any key with the secret of the manager key opens the room. -/
theorem unlock (h : Hierarchy kms managerKey pair r)
    (hk : k.cipherSecret = managerKey.cipherSecret) :
    (r.unlock k).result = .ok (pair.withIv r.keyPair.iv) := by
  obtain ⟨_, hkey, -⟩ := KeyPair.wrap_eq_ok_iff.mp h.keyPair
  obtain ⟨_, secret, -, hsecret, -⟩ := Key.wrap_eq_ok_iff.mp hkey
  rw [unlock_eq_checked, Key.result_checked_eq_ok_iff, KeyPair.unwrap_eq_ok_iff,
    Key.mac_congr (hk.trans hsecret) hsecret, KeyPair.wrap_congr hk]
  exact ⟨h.mac, h.keyPair⟩

/-- The service opens the room, at any time. -/
theorem run_unlockThroughService (h : Hierarchy kms managerKey pair r) (e : Environment) :
    ∃ events, r.unlockThroughService.run kms.responder e
      = ⟨.ok (pair.withIv r.keyPair.iv), events, e⟩ :=
  ⟨_, Dialogue.run_bind_of_run (LocalKms.run_unwrap h.keyEncryptingKey)
    (Dialogue.run_liftM_logged (h.unlock rfl))⟩

end Hierarchy

/-! ## A fresh manager key -/

/-- The service makes a manager key for a room, and a pair can be wrapped under it. -/
theorem exists_managerKey (kms : LocalKms) (name : String) {secret : KeyBytes}
    (hpair : pair.privateKey.material = .plain secret) {iv : Bytes} (hiv : iv.length = ivSize)
    (e : Environment) :
    ∃ keyEncryptingKey managerKey keyPair mac later,
      kms.generate .xchacha20poly1305 ⟨roomScope, name⟩ e = (.ok keyEncryptingKey, later) ∧
      kms.unwrap keyEncryptingKey = .ok managerKey ∧
      managerKey.context = some ⟨roomScope, name⟩ ∧
      (pair.withIv iv).wrap managerKey = .ok keyPair ∧ keyPair.iv = iv ∧
      managerKey.mac iv = .ok mac := by
  obtain ⟨managerKey, keyEncryptingKey, later, hgenerate, hunwrap, htype, hcontext, hplain⟩ :=
    kms.exists_generate .xchacha20poly1305 ⟨roomScope, name⟩ e
  have husable : managerKey.isUsable = true := by rw [Key.isUsable, htype, hplain]; rfl
  obtain ⟨keyPair, hkeyPair⟩ : ∃ keyPair, (pair.withIv iv).wrap managerKey = .ok keyPair :=
    KeyPair.exists_wrap hpair husable hiv
  obtain ⟨key, hkey⟩ := Key.isUsable_iff.mp husable
  have hmac : managerKey.mac iv = .ok (Hmac.mac key.bytes iv) := by
    rw [Key.mac, Key.secret_of_cipherSecret hkey]
    rfl
  exact ⟨keyEncryptingKey, managerKey, keyPair, _, later, hgenerate, hunwrap, hcontext, hkeyPair,
    KeyPair.iv_of_wrap hkeyPair, hmac⟩

/-- A new room has its hierarchy, with the pair of the secret that stands between
    vector and nonce in the bytes that were drawn for all three. -/
theorem exists_create (kms : LocalKms) (e : Environment) (name : String) :
    ∃ r managerKey, ∃ secret : KeyBytes,
      ((create name).run kms.responder e).result = .ok r ∧ r.name = name ∧
      (e.draw (ivSize + KeyPair.privateKeySize + roomNonceSize)).1
        = r.keyPair.iv ++ secret.bytes ++ r.nonce ∧
      Hierarchy kms managerKey (KeyPair.ofKeyBytes secret) r := by
  let random := (e.draw (ivSize + KeyPair.privateKeySize + roomNonceSize)).1
  let iv := random.take ivSize
  let behind := random.drop ivSize
  have hrandom : random.length = ivSize + KeyPair.privateKeySize + roomNonceSize :=
    Environment.length_draw _ _
  have hiv : iv.length = ivSize := by
    rw [List.length_take, hrandom]
    omega
  have hbehind : behind.length = KeyPair.privateKeySize + roomNonceSize := by
    rw [List.length_drop, hrandom]
    omega
  have hsecret : (behind.take KeyPair.privateKeySize).length = keySize := by
    rw [List.length_take, hbehind, Nat.min_eq_left (Nat.le_add_right _ _)]
    rfl
  let secret : KeyBytes := ⟨behind.take KeyPair.privateKeySize, hsecret⟩
  have hpair : KeyPair.ofSecret secret.bytes = .ok (KeyPair.ofKeyBytes secret) :=
    KeyPair.ofSecret_of_length hsecret
  have hmaterial : (KeyPair.ofKeyBytes secret).privateKey.material = .plain secret := rfl
  obtain ⟨keyEncryptingKey, managerKey, keyPair, mac, later, hgenerate, hunwrap, hcontext, hkeyPair,
    hkeyPairIv, hmac⟩ := exists_managerKey kms name hmaterial hiv
      (e.draw (ivSize + KeyPair.privateKeySize + roomNonceSize)).2
  rw [← hkeyPairIv] at hmac
  have hsplit : random = iv ++ secret.bytes ++ behind.drop KeyPair.privateKeySize := by
    rw [List.append_assoc, List.take_append_drop, List.take_append_drop]
  refine ⟨⟨name, behind.drop KeyPair.privateKeySize, mac, keyEncryptingKey, keyPair, none⟩,
    managerKey, secret, ?_, rfl, ?_, ?_⟩
  · rw [create, Dialogue.result_bind_of_run (LocalKms.run_nonce _ _),
      Dialogue.result_bind_of_run (Dialogue.run_cut (by rw [hrandom]; omega)),
      Dialogue.result_bind_of_run (Dialogue.run_cut (by rw [hbehind]; omega)),
      Dialogue.result_bind_of_run (LocalKms.run_generate hgenerate),
      Dialogue.result_bind_of_run (LocalKms.run_unwrap hunwrap),
      Dialogue.result_bind_of_run (Dialogue.run_liftM_of_ok hpair),
      Dialogue.result_bind_of_run (Dialogue.run_liftM_of_ok hkeyPair),
      Dialogue.result_bind_of_run (Dialogue.run_liftM_of_ok hmac),
      Dialogue.result_bind_of_run (Dialogue.run_note _)]
    rfl
  · rw [hkeyPairIv]
    exact hsplit
  · exact {
      keyEncryptingKey := hunwrap
      context := hcontext
      keyPair := by rw [hkeyPairIv]; exact hkeyPair
      mac := hmac
      messageKey := by rintro m ⟨⟩ }

/-! ## A fresh message key -/

/-- Renewing the message key always succeeds. The service keeps the new key and opens it
    to a key of the cipher, bound to the room. -/
theorem exists_issued (r : Room) (kms : LocalKms) (e : Environment) :
    ∃ m k, (r.renewMessageKey.run kms.responder e).result = .ok { r with messageKey := some m } ∧
      m.IsIssued kms e k ∧ k.context = some ⟨roomScope, r.name⟩ := by
  obtain ⟨m, k, later, hissue, hm, hcontext⟩ := MessageKey.exists_issue kms r.name e
  refine ⟨m, k, ?_, hm, hcontext⟩
  rw [renewMessageKey, Dialogue.result_bind_of_run hissue,
    Dialogue.result_bind_of_run (Dialogue.run_note _)]
  rfl

namespace Hierarchy

/-- The manager key can be renewed at any time. The pair stays, in another wrapping. -/
theorem exists_renewManagerKey {secret : KeyBytes} (h : Hierarchy kms managerKey pair r)
    (hpair : pair.privateKey.material = .plain secret) (e : Environment) :
    ∃ managerKey' mac keyEncryptingKey iv material,
      (r.renewManagerKey.run kms.responder e).result
        = .ok { r with mac := mac, keyEncryptingKey := keyEncryptingKey,
                       keyPair := r.keyPair.rewrapped iv material } ∧
      Hierarchy kms managerKey' pair
        { r with mac := mac, keyEncryptingKey := keyEncryptingKey,
                 keyPair := r.keyPair.rewrapped iv material } := by
  obtain ⟨events, hunlock⟩ := h.run_unlockThroughService e
  obtain ⟨keyEncryptingKey, managerKey', keyPair, mac, later, hgenerate, hunwrap, hcontext,
    hkeyPair, hkeyPairIv, hmac⟩ :=
      exists_managerKey kms r.name hpair (Environment.length_draw ivSize e) (e.draw ivSize).2
  have hrewrapped : keyPair = r.keyPair.rewrapped (e.draw ivSize).1 keyPair.privateKey.material :=
    KeyPair.eq_rewrapped_of_wrap h.keyPair hkeyPair
  have hkeyPair' : ((pair.withIv r.keyPair.iv).withIv (e.draw ivSize).1).wrap managerKey'
      = .ok keyPair := hkeyPair
  rw [← hkeyPairIv] at hmac
  refine ⟨managerKey', mac, keyEncryptingKey, (e.draw ivSize).1, keyPair.privateKey.material,
    ?_, ?_⟩
  · rw [← hrewrapped, renewManagerKey, Dialogue.result_bind_of_run hunlock,
      Dialogue.result_bind_of_run (LocalKms.run_nonce _ _),
      Dialogue.result_bind_of_run (LocalKms.run_generate hgenerate),
      Dialogue.result_bind_of_run (LocalKms.run_unwrap hunwrap),
      Dialogue.result_bind_of_run (Dialogue.run_liftM_of_ok hkeyPair'),
      Dialogue.result_bind_of_run (Dialogue.run_liftM_of_ok hmac),
      Dialogue.result_bind_of_run (Dialogue.run_note _)]
    rfl
  · rw [← hrewrapped]
    exact {
      keyEncryptingKey := hunwrap
      context := hcontext
      keyPair := by rw [hkeyPairIv]; exact hkeyPair
      mac := hmac
      messageKey := h.messageKey }

/-- From 1970 on the message key can be renewed. -/
theorem exists_renewMessageKey (h : Hierarchy kms managerKey pair r) {e : Environment}
    (he : 0 ≤ e.clock.ns) :
    ∃ m, (r.renewMessageKey.run kms.responder e).result = .ok { r with messageKey := some m } ∧
      Hierarchy kms managerKey pair { r with messageKey := some m } := by
  obtain ⟨m, k, hrenew, hm, hcontext⟩ := r.exists_issued kms e
  refine ⟨m, hrenew, { h with messageKey := ?_ }⟩
  intro _ hsome
  obtain rfl := Option.some.inj hsome
  have hwrap : k.wrap kms.master = .ok m.key := LocalKms.unwrap_eq_ok_iff.mp hm.unwrap
  refine ⟨⟨Key.isEncrypted_of_wrap hwrap, ?_⟩, (Key.context_of_wrap hwrap).trans hcontext⟩
  rw [hm.issuedAt]
  exact he

end Hierarchy

end Room

end ChatKeys
