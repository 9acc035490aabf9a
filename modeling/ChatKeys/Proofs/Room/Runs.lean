/-
  ChatKeys.Proofs.Room.Runs

  What stays of a room, whatever is done to it.

  An `Operation` renews the manager key or the message key, or stores the room and
  reads it back.  From 1970 on operations always succeed, so a `run` of them always
  gives a room again.

    * `Operation.Changes` — what each operation may change;
    * `Hierarchy.exists_apply`, `Hierarchy.exists_run` — one operation, and many: the
      keys go on hanging together, with the same manager key unless it is renewed;
    * `Consistent` — what that means for whoever looks at the room;
    * `Hierarchy.unlockByGrant` — a manager key that was granted to an account opens
      the room like the service does.
-/
import ChatKeys.Proofs.Account.Grants
import ChatKeys.Proofs.Room.Hierarchy

namespace ChatKeys.Room

/-! ## Operations -/

/-- Something that gives a room a new value. What asks the service does so in an
    environment of its own. -/
inductive Operation where
  | renewManagerKey (e : Environment)
  | renewMessageKey (e : Environment)
  /-- The room is stored and read back. -/
  | reload

namespace Operation

/-- If the operation looks at the clock, it is 1970 or later. -/
def SinceEpoch : Operation → Prop
  | renewMessageKey e => 0 ≤ e.clock.ns
  | _ => True

def KeepsManagerKey : Operation → Prop
  | renewManagerKey _ => False
  | _ => True

/-- Does an operation to a room, if it succeeds. -/
def apply (kms : LocalKms) (r : Room) : Operation → Option Room
  | renewManagerKey e => (r.renewManagerKey.run kms.responder e).result.toOption
  | renewMessageKey e => (r.renewMessageKey.run kms.responder e).result.toOption
  | reload => codec.reload r

/-- All that an operation may change of a room. -/
def Changes (r r' : Room) : Operation → Prop
  | renewManagerKey _ => ∃ mac keyEncryptingKey iv material,
      r' = { r with mac := mac, keyEncryptingKey := keyEncryptingKey,
                    keyPair := r.keyPair.rewrapped iv material }
  | renewMessageKey _ => ∃ m, r' = { r with messageKey := some m }
  | reload => r' = r

end Operation

/-- Does operations one after the other, as long as they succeed. -/
def run (kms : LocalKms) : List Operation → Room → Option Room
  | [], r => some r
  | op :: ops, r => (op.apply kms r).bind (run kms ops)

variable {kms : LocalKms} {managerKey : Key} {pair : KeyPair} {secret : KeyBytes} {r r' r'' : Room}
  {op : Operation} {ops : List Operation}

/-! ## What no operation changes -/

/-- What a room has in common with an earlier value of it, whatever was done in
    between. -/
structure Continues (r r' : Room) : Prop where
  name : r'.name = r.name
  nonce : r'.nonce = r.nonce
  publicKey : r'.keyPair.publicKey = r.keyPair.publicKey

theorem Continues.refl (r : Room) : Continues r r := ⟨rfl, rfl, rfl⟩

theorem Continues.trans (h : Continues r r') (h' : Continues r' r'') : Continues r r'' :=
  ⟨h'.name.trans h.name, h'.nonce.trans h.nonce, h'.publicKey.trans h.publicKey⟩

theorem Operation.Changes.continues (h : op.Changes r r') : Continues r r' := by
  cases op with
  | renewManagerKey e =>
    obtain ⟨mac, keyEncryptingKey, iv, material, rfl⟩ := h
    exact ⟨rfl, rfl, rfl⟩
  | renewMessageKey e =>
    obtain ⟨m, rfl⟩ := h
    exact ⟨rfl, rfl, rfl⟩
  | reload =>
    obtain rfl := h
    exact Continues.refl _

/-! ## The hierarchy -/

namespace Hierarchy

/-- Every operation succeeds, changes what it may, and leaves the keys in agreement. -/
theorem exists_apply (h : Hierarchy kms managerKey pair r)
    (hpair : pair.privateKey.material = .plain secret) (hop : op.SinceEpoch) :
    ∃ r' managerKey', op.apply kms r = some r' ∧ Hierarchy kms managerKey' pair r' ∧
      op.Changes r r' ∧ (op.KeepsManagerKey → managerKey' = managerKey) := by
  cases op with
  | renewManagerKey e =>
    obtain ⟨managerKey', mac, keyEncryptingKey, iv, material, hrun, h'⟩ :=
      h.exists_renewManagerKey hpair e
    exact ⟨_, managerKey', toOption_eq_some_iff.mpr hrun, h', ⟨_, _, _, _, rfl⟩, nofun⟩
  | renewMessageKey e =>
    obtain ⟨m, hrun, h'⟩ := h.exists_renewMessageKey hop
    exact ⟨_, managerKey, toOption_eq_some_iff.mpr hrun, h', ⟨m, rfl⟩, fun _ => rfl⟩
  | reload =>
    exact ⟨r, managerKey, (restores h.isStorable).reload_eq, h, rfl, fun _ => rfl⟩

/-- Any number of operations succeed and leave the keys in agreement. -/
theorem exists_run (h : Hierarchy kms managerKey pair r)
    (hpair : pair.privateKey.material = .plain secret) (hops : ∀ op ∈ ops, op.SinceEpoch) :
    ∃ r' managerKey', run kms ops r = some r' ∧ Hierarchy kms managerKey' pair r' ∧
      Continues r r' ∧ ((∀ op ∈ ops, op.KeepsManagerKey) → managerKey' = managerKey) := by
  induction ops generalizing r managerKey with
  | nil => exact ⟨r, managerKey, rfl, h, Continues.refl r, fun _ => rfl⟩
  | cons op ops ih =>
    obtain ⟨hop, hrest⟩ := List.forall_mem_cons.mp hops
    obtain ⟨r₁, managerKey₁, happly, h₁, hchanges, hkeep⟩ := h.exists_apply hpair hop
    obtain ⟨r', managerKey', hrun, h', hcontinues, hkeeps⟩ := ih h₁ hrest
    refine ⟨r', managerKey', ?_, h', hchanges.continues.trans hcontinues, ?_⟩
    · rw [run, happly, Option.bind_some, hrun]
    · intro hall
      obtain ⟨hfirst, hothers⟩ := List.forall_mem_cons.mp hall
      exact (hkeeps hothers).trans (hkeep hfirst)

end Hierarchy

/-- What can be seen of a room whose key pair has a given secret: the pair belongs to
    the secret, the code is that of the manager key which the service keeps, all that
    the service keeps is wrapped and bound to the room, and the service opens it. -/
structure Consistent (kms : LocalKms) (secret : KeyBytes) (r : Room) : Prop where
  publicKey : r.keyPair.publicKey = X25519.publicKey secret.bytes
  mac : ∃ managerKey, (∀ e, (r.managerKey.run kms.responder e).result = .ok managerKey) ∧
    managerKey.mac r.keyPair.iv = .ok r.mac
  keyEncryptingKey : r.keyEncryptingKey.isEncrypted = true ∧
    r.keyEncryptingKey.context = some ⟨roomScope, r.name⟩
  messageKey : ∀ m, r.messageKey = some m →
    m.key.isEncrypted = true ∧ m.key.context = some ⟨roomScope, r.name⟩
  unlock : ∀ e, (r.unlockThroughService.run kms.responder e).result
    = .ok ((KeyPair.ofKeyBytes secret).withIv r.keyPair.iv)

theorem Hierarchy.consistent (h : Hierarchy kms managerKey (KeyPair.ofKeyBytes secret) r) :
    Consistent kms secret r where
  publicKey := h.publicKey
  mac := ⟨managerKey, fun _ => LocalKms.result_unwrap_eq_ok_iff.mpr h.keyEncryptingKey, h.mac⟩
  keyEncryptingKey := ⟨h.isStorable.keyEncryptingKey, h.context_keyEncryptingKey⟩
  messageKey m hm := ⟨(h.messageKey m hm).1.key, (h.messageKey m hm).2⟩
  unlock e := by
    obtain ⟨events, hunlock⟩ := h.run_unlockThroughService e
    rw [hunlock]

/-! ## Managers -/

/-- The manager key can be granted to any account whose key-encrypting key the service
    keeps. -/
theorem Hierarchy.exists_appointManager {kek : Key} {a : Account}
    (h : Hierarchy kms managerKey pair r) (hsystem : kms.unwrap a.systemKey = .ok kek)
    (hkek : kek.isUsable = true) (e : Environment) :
    ∃ capability iv, ((r.appointManager a).run kms.responder e).result = .ok capability ∧
      Capability.issue kek iv managerKey = .ok capability := by
  have hplain : managerKey.isEncrypted = false :=
    Key.not_isEncrypted_of_wrap (LocalKms.unwrap_eq_ok_iff.mp h.keyEncryptingKey)
  obtain ⟨capability, hissue⟩ :=
    Capability.exists_issue hkek (Environment.length_draw ivSize e) hplain
  have hgrant : ((a.grant managerKey).run kms.responder e).result = .ok capability :=
    Account.result_grant_eq_ok_iff.mpr ⟨kek, hsystem, hissue⟩
  have hmanager : (r.managerKey.run kms.responder e).result = .ok managerKey :=
    LocalKms.result_unwrap_eq_ok_iff.mpr h.keyEncryptingKey
  have happoint : (((Account.Gift.managerKey r).grantTo a).run kms.responder e).result
      = .ok capability :=
    Account.result_grantTo_eq_ok_iff.mpr ⟨managerKey, hmanager, hgrant⟩
  exact ⟨capability, _, happoint, hissue⟩

/-- A manager key that was granted to an account opens the room. -/
theorem Hierarchy.unlockByGrant {kek c : Key} {accountPair : KeyPair} {a : Account} {iv : Bytes}
    {capability : Capability} (h : Hierarchy kms managerKey pair r)
    (ha : Account.Hierarchy kms kek accountPair a c)
    (hissue : Capability.issue kek iv managerKey = .ok capability) :
    (r.unlockByGrant a c capability).result = .ok (pair.withIv r.keyPair.iv) := by
  rw [Room.unlockByGrant, Logged.result_bind, ha.redeemGrant hissue]
  exact h.unlock (Key.cipherSecret_bare managerKey)

/-- Creating a room gives one, and whatever is done to it from 1970 on succeeds. It
    keeps its name, its nonce and the pair of the secret that it was created with, and
    its keys stay in agreement; no operation changes more than it may. A manager key
    that was granted to an account opens the room as the service does until the manager
    key is renewed, with the client key that the account has by then; unless an impostor
    was met at the account. -/
theorem operations_keep_consistent (kms : LocalKms) (e : Environment) (name : String) :
    ∃ r₀, ∃ secret : KeyBytes, ((create name).run kms.responder e).result = .ok r₀ ∧
      (e.draw (ivSize + KeyPair.privateKeySize + roomNonceSize)).1
        = r₀.keyPair.iv ++ secret.bytes ++ r₀.nonce ∧
      ∀ ops, (∀ op ∈ ops, op.SinceEpoch) → ∃ r, run kms ops r₀ = some r ∧
        r.name = name ∧ r.nonce = r₀.nonce ∧ Consistent kms secret r ∧
        (∀ op : Operation, op.SinceEpoch → ∃ r', op.apply kms r = some r' ∧ op.Changes r r') ∧
        ∀ (eₐ : Environment) (password : String) (kdf : KdfParams) (a₀ : Account) (c₀ : Key),
          ((Account.create password kdf).run kms.responder eₐ).result = .ok (a₀, c₀) →
          ∀ before a c, Account.run kms before (a₀, c₀) = some (a, c) →
          ∀ eₘ, ∃ capability, ((r.appointManager a).run kms.responder eₘ).result = .ok capability ∧
            ∀ after a' c', Account.run kms after (a, c) = some (a', c') →
            ∀ later, (∀ op ∈ later, op.SinceEpoch ∧ op.KeepsManagerKey) →
            ∃ r', run kms later r = some r' ∧
              (Account.MeetsImpostor kms (before ++ after) (a₀, c₀) ∨
                ∃ pair, (∀ eₛ, (r'.unlockThroughService.run kms.responder eₛ).result = .ok pair) ∧
                  (r'.unlockByGrant a' c' capability).result = .ok pair) := by
  obtain ⟨r₀, managerKey₀, secret, hcreate, hname, hdrawn, h₀⟩ := exists_create kms e name
  refine ⟨r₀, secret, hcreate, hdrawn, ?_⟩
  intro ops hops
  have hpair : (KeyPair.ofKeyBytes secret).privateKey.material = .plain secret := rfl
  obtain ⟨r, managerKey, hrun, h, hcontinues, -⟩ := h₀.exists_run hpair hops
  refine ⟨r, hrun, hcontinues.name.trans hname, hcontinues.nonce, h.consistent, ?_, ?_⟩
  · intro op hop
    obtain ⟨r', -, happly, -, hchanges, -⟩ := h.exists_apply hpair hop
    exact ⟨r', happly, hchanges⟩
  intro eₐ password kdf a₀ c₀ hcreate' before a c hbefore eₘ
  obtain ⟨a₁, kek, accountPair, hcreate₁, -, ha₀⟩ := Account.exists_create kms eₐ password kdf
  rw [hcreate'] at hcreate₁
  obtain ⟨rfl, rfl⟩ := Prod.mk.inj (Except.ok.inj hcreate₁)
  -- Whatever happened to the account, the manager key is sealed to its first key.
  have hsystem : kms.unwrap a.systemKey = .ok kek := by
    rw [(ha₀.continues.run hbefore).systemKey]
    exact ha₀.systemKey
  obtain ⟨capability, iv, happoint, hissue⟩ := h.exists_appointManager hsystem ha₀.isUsable eₘ
  refine ⟨capability, happoint, ?_⟩
  intro after a' c' hafter later hlater
  obtain ⟨r', managerKey', hrun', h', -, hkeeps⟩ :=
    h.exists_run hpair fun op hop => (hlater op hop).1
  obtain rfl := hkeeps fun op hop => (hlater op hop).2
  refine ⟨r', hrun', ?_⟩
  have hwhole : Account.run kms (before ++ after) (a₀, a₀.clientKey password) = some (a', c') := by
    rw [Account.run_append hbefore, hafter]
  rcases ha₀.run hwhole with ha' | himpostor
  · exact .inr ⟨_, h'.consistent.unlock, h'.unlockByGrant ha' hissue⟩
  · exact .inl himpostor

/-- A room whose message key and manager key are renewed, and which is then granted to
    an account and stored: when the account has changed its client key, the grant still
    opens the room. -/
theorem operations_keep_consistent_example :
    ∃ r₀ r r' a₀ c₀ a' capability, ∃ pair : KeyPair,
      ((create "lobby").run (⟨exampleKey, rfl⟩ : LocalKms).responder
        ⟨.epoch, fun _ => 0, 0⟩).result = .ok r₀ ∧
      run ⟨exampleKey, rfl⟩ [.renewMessageKey ⟨.epoch, fun _ => 0, 0⟩,
        .renewManagerKey ⟨.epoch, fun _ => 0, 0⟩] r₀ = some r ∧
      ((Account.create "correct horse" .standard).run (⟨exampleKey, rfl⟩ : LocalKms).responder
        ⟨.epoch, fun _ => 0, 0⟩).result = .ok (a₀, c₀) ∧
      ((r.appointManager a₀).run (⟨exampleKey, rfl⟩ : LocalKms).responder
        ⟨.epoch, fun _ => 0, 0⟩).result = .ok capability ∧
      Account.run ⟨exampleKey, rfl⟩ [.replaceClientKey c₀ exampleKey] (a₀, c₀)
        = some (a', exampleKey) ∧
      run ⟨exampleKey, rfl⟩ [.reload] r = some r' ∧ r'.name = "lobby" ∧
      (r'.unlockThroughService.run (⟨exampleKey, rfl⟩ : LocalKms).responder
        ⟨.epoch, fun _ => 0, 0⟩).result = .ok pair ∧
      (r'.unlockByGrant a' exampleKey capability).result = .ok pair := by
  let kms : LocalKms := ⟨exampleKey, rfl⟩
  let e : Environment := ⟨.epoch, fun _ => 0, 0⟩
  obtain ⟨r₀, secret, hcreate, -, hruns⟩ := operations_keep_consistent kms e "lobby"
  have hsince : ∀ op ∈ [Operation.renewMessageKey e, Operation.renewManagerKey e],
      op.SinceEpoch := by
    refine List.forall_mem_cons.mpr ⟨?_, List.forall_mem_singleton.mpr trivial⟩
    exact Int.le_refl 0
  obtain ⟨r, hrun, hname, -, -, hoperations, hgrants⟩ := hruns _ hsince
  obtain ⟨a₀, kek, accountPair, hcreate', -, ha₀⟩ :=
    Account.exists_create kms e "correct horse" .standard
  obtain ⟨capability, happoint, hredeems⟩ := hgrants e _ _ _ _ hcreate' [] _ _ rfl e
  obtain ⟨a', hreplace, -⟩ := ha₀.exists_replaceClientKey (rfl : exampleKey.isUsable = true)
  have hafter : Account.run kms [.replaceClientKey (a₀.clientKey "correct horse") exampleKey]
      (a₀, a₀.clientKey "correct horse") = some (a', exampleKey) := by
    rw [Account.run, hreplace]
    rfl
  have hlater : ∀ op ∈ [Operation.reload], op.SinceEpoch ∧ op.KeepsManagerKey :=
    List.forall_mem_singleton.mpr ⟨trivial, trivial⟩
  have hpresents : Account.PresentsClientKey kms
      [.replaceClientKey (a₀.clientKey "correct horse") exampleKey]
      (a₀, a₀.clientKey "correct horse") :=
    Account.presentsClientKey_replaceClientKey fun _ _ => trivial
  obtain ⟨r', hrun', himpostor | ⟨pair, hstaff, hmanager⟩⟩ := hredeems _ _ _ hafter _ hlater
  · exact absurd himpostor (Account.not_meetsImpostor hpresents)
  · obtain ⟨r₁, hreload, hsame⟩ := hoperations .reload trivial
    have hr' : r' = r := by
      rw [run, hreload] at hrun'
      exact (Option.some.inj hrun').symm.trans hsame
    exact ⟨r₀, r, r', a₀, _, a', capability, pair, hcreate, hrun, hcreate', happoint, hafter, hrun',
      by rw [hr', hname], hstaff e, hmanager⟩

end ChatKeys.Room
