/-
  ChatKeys.Proofs.Room.Revocation

  What renewing the manager key takes away.

  A renewal replaces the manager key, the key pair's vector and the code of the vector
  together (`RenewedIn`).  Whoever presents a key is let in on the word of that code
  alone, so a grant of an earlier manager key is worth nothing any more, unless both keys
  happen to give the new vector the same code.

    * `mac_of_unlock`, `unlock_of_mac_ne` — a key opens a room only if it has the room's
      code, and a key in the clear that does not is denied;
    * `Hierarchy.exists_renewal`, `Hierarchy.exists_run_keeping` — what the last renewal
      of a run draws, and that it is in force from then on;
    * `Hierarchy.unlockByGrant_of_mac_ne` — so an earlier grant is denied;
    * `renewal_revokes_grants` — while it goes on opening the room that it was made for.
-/
import ChatKeys.Proofs.Room.Runs

namespace ChatKeys

/-- The code of a key does not depend on its vector or context. -/
@[simp] theorem Key.mac_bare (k : Key) (message : Bytes) : k.bare.mac message = k.mac message := rfl

/-- The material of a key that the service makes is what it draws first. -/
theorem LocalKms.secret_of_generate {kms : LocalKms} {type : KeyType} {context : KeyContext}
    {e later : Environment} {k w : Key} (hgenerate : kms.generate type context e = (.ok w, later))
    (hunwrap : kms.unwrap w = .ok k) :
    k.secret = .ok ⟨(e.draw keySize).1, Environment.length_draw _ _⟩ := by
  let drawn : Key := ((Key.ofSecret type ⟨(e.draw keySize).1, Environment.length_draw _ _⟩).withIv
    ((e.draw keySize).2.draw ivSize).1).withContext context.scope context.value
  have hwrap : drawn.wrap kms.master = .ok w :=
    mapError_eq_ok_iff.mp (congrArg Prod.fst hgenerate)
  have hdrawn : kms.unwrap w = .ok drawn := LocalKms.unwrap_eq_ok_iff.mpr hwrap
  obtain rfl : drawn = k := Except.ok.inj (hdrawn.symm.trans hunwrap)
  rfl

namespace Room

variable {kms : LocalKms} {managerKey managerKey' k : Key} {pair : KeyPair} {r r' : Room}
  {e : Environment} {ops : List Operation}

/-! ## Keys that are presented -/

/-- Only a key with the room's code opens the room. -/
theorem mac_of_unlock (h : (r.unlock k).result = .ok pair) : k.mac r.keyPair.iv = .ok r.mac := by
  rw [unlock_eq_checked] at h
  exact (Key.result_checked_eq_ok_iff.mp h).1

theorem unlock_of_mac_ne (hk : k.isEncrypted = false) (hmac : k.mac r.keyPair.iv ≠ .ok r.mac) :
    (r.unlock k).result = .error .accessDenied := by
  obtain ⟨secret, hmaterial⟩ := Key.exists_plain hk
  have hown := Key.mac_of_secret (Key.secret_eq_ok_iff.mpr hmaterial) r.keyPair.iv
  exact result_unlock_of_mac_ne hown fun heq => hmac (heq ▸ hown)

/-! ## Renewals -/

/-- The manager key that is in force: the service reveals it at any time, and the room's
    code is its code of the key pair's vector. -/
structure HasManagerKey (kms : LocalKms) (managerKey : Key) (r : Room) : Prop where
  reveal : ∀ e, (r.managerKey.run kms.responder e).result = .ok managerKey
  mac : managerKey.mac r.keyPair.iv = .ok r.mac

/-- The vector and the manager key that are in force were drawn in an environment, in
    this order. -/
structure RenewedIn (e : Environment) (managerKey : Key) (r : Room) : Prop where
  iv : r.keyPair.iv = (e.draw ivSize).1
  secret : managerKey.secret =
    .ok ⟨((e.draw ivSize).2.draw keySize).1, Environment.length_draw _ _⟩

theorem HasManagerKey.eq (h : HasManagerKey kms managerKey r)
    (h' : HasManagerKey kms managerKey' r) : managerKey' = managerKey :=
  Except.ok.inj ((h'.reveal ⟨.epoch, fun _ => 0, 0⟩).symm.trans (h.reveal _))

theorem run_append {later : List Operation} (h : run kms ops r = some r') :
    run kms (ops ++ later) r = run kms later r' := by
  induction ops generalizing r with
  | nil =>
    obtain rfl := Option.some.inj h
    rfl
  | cons op ops ih =>
    obtain ⟨r₁, happly, hrest⟩ := Option.bind_eq_some_iff.mp h
    rw [List.cons_append, run, happly, Option.bind_some, ih hrest]

namespace Hierarchy

theorem hasManagerKey (h : Hierarchy kms managerKey pair r) : HasManagerKey kms managerKey r where
  reveal _ := LocalKms.result_unwrap_eq_ok_iff.mpr h.keyEncryptingKey
  mac := h.mac

/-- What a renewal that succeeds has drawn. -/
theorem renewedIn (h : Hierarchy kms managerKey pair r)
    (hrun : (r.renewManagerKey.run kms.responder e).result = .ok r')
    (h' : Hierarchy kms managerKey' pair r') : RenewedIn e managerKey' r' := by
  obtain ⟨events, hunlock⟩ := h.run_unlockThroughService e
  obtain ⟨k, w, later, hgenerate, hunwrap, -⟩ :=
    kms.exists_generate .xchacha20poly1305 ⟨roomScope, r.name⟩ (e.draw ivSize).2
  rw [renewManagerKey, Dialogue.result_bind_of_run hunlock,
    Dialogue.result_bind_of_run (LocalKms.run_nonce _ _),
    Dialogue.result_bind_of_run (LocalKms.run_generate hgenerate),
    Dialogue.result_bind_of_run (LocalKms.run_unwrap hunwrap)] at hrun
  simp only [Dialogue.run_bind_eq_ok_iff, Dialogue.run_liftM, Dialogue.run_note,
    Dialogue.run_pure, mapError_eq_ok_iff] at hrun
  obtain ⟨keyPair, hkeyPair, mac, -, -, -, hr'⟩ := hrun
  obtain rfl := Except.ok.inj hr'
  exact {
    iv := KeyPair.iv_of_wrap hkeyPair
    secret := LocalKms.secret_of_generate hgenerate h'.keyEncryptingKey }

/-- The manager key can be renewed at any time, by a key and a vector that are drawn. -/
theorem exists_renewal {secret : KeyBytes} (h : Hierarchy kms managerKey pair r)
    (hpair : pair.privateKey.material = .plain secret) (e : Environment) :
    ∃ r' managerKey', (Operation.renewManagerKey e).apply kms r = some r' ∧
      Hierarchy kms managerKey' pair r' ∧ RenewedIn e managerKey' r' := by
  have hsince : (Operation.renewManagerKey e).SinceEpoch := trivial
  obtain ⟨r', managerKey', happly, h', -⟩ := h.exists_apply hpair hsince
  exact ⟨r', managerKey', happly, h', h.renewedIn (toOption_eq_some_iff.mp happly) h'⟩

/-- Until the next renewal manager key and key pair stay as they are. -/
theorem exists_run_keeping {secret : KeyBytes} (h : Hierarchy kms managerKey pair r)
    (hpair : pair.privateKey.material = .plain secret)
    (hops : ∀ op ∈ ops, op.SinceEpoch ∧ op.KeepsManagerKey) :
    ∃ r', run kms ops r = some r' ∧ Hierarchy kms managerKey pair r' ∧
      r'.keyPair = r.keyPair := by
  induction ops generalizing r with
  | nil => exact ⟨r, rfl, h, rfl⟩
  | cons op ops ih =>
    obtain ⟨⟨hsince, hkeeps⟩, hrest⟩ := List.forall_mem_cons.mp hops
    obtain ⟨r₁, managerKey₁, happly, h₁, hchanges, hkept⟩ := h.exists_apply hpair hsince
    obtain rfl := hkept hkeeps
    have hkeyPair : r₁.keyPair = r.keyPair := by
      cases op with
      | renewManagerKey e => cases hkeeps
      | renewMessageKey e =>
        obtain ⟨m, rfl⟩ := hchanges
        rfl
      | reload =>
        obtain rfl := hchanges
        rfl
    obtain ⟨r', hrun, h', hkeyPair'⟩ := ih h₁ hrest
    refine ⟨r', ?_, h', hkeyPair'.trans hkeyPair⟩
    rw [run, happly, Option.bind_some, hrun]

/-- Whatever comes before it and after it, the last renewal of a run decides about the
    manager key and the vector. -/
theorem exists_run_renewing {secret : KeyBytes} {between rest : List Operation}
    (h : Hierarchy kms managerKey pair r) (hpair : pair.privateKey.material = .plain secret)
    (hbetween : ∀ op ∈ between, op.SinceEpoch)
    (hrest : ∀ op ∈ rest, op.SinceEpoch ∧ op.KeepsManagerKey) (e : Environment) :
    ∃ r' managerKey', run kms (between ++ .renewManagerKey e :: rest) r = some r' ∧
      Hierarchy kms managerKey' pair r' ∧ RenewedIn e managerKey' r' := by
  obtain ⟨r₁, managerKey₁, hrun₁, h₁, -⟩ := h.exists_run hpair hbetween
  obtain ⟨r₂, managerKey₂, happly, h₂, hrenewed⟩ := h₁.exists_renewal hpair e
  obtain ⟨r', hrun', h', hkeyPair⟩ := h₂.exists_run_keeping hpair hrest
  refine ⟨r', managerKey₂, ?_, h', { hrenewed with iv := ?_ }⟩
  · rw [run_append hrun₁, run, happly, Option.bind_some, hrun']
  · rw [hkeyPair]
    exact hrenewed.iv

end Hierarchy

/-! ## Grants -/

/-- A grant is denied by a room whose vector it gives another code than the room's. -/
theorem unlockByGrant_of_mac_ne {kek c : Key} {accountPair : KeyPair} {a : Account} {iv : Bytes}
    {capability : Capability} (ha : Account.Hierarchy kms kek accountPair a c)
    (hissue : Capability.issue kek iv managerKey = .ok capability)
    (hmac : managerKey.mac r.keyPair.iv ≠ .ok r.mac) :
    (r.unlockByGrant a c capability).result = .error .accessDenied := by
  have hplain : managerKey.bare.isEncrypted = false := Capability.not_isEncrypted_of_issue hissue
  have hbare : managerKey.bare.mac r.keyPair.iv ≠ .ok r.mac := by rwa [Key.mac_bare]
  rw [Room.unlockByGrant, Logged.result_bind, ha.redeemGrant hissue]
  exact unlock_of_mac_ne hplain hbare

/-- Renewing the manager key revokes all earlier grants. Take any room that was created
    and operated on, and any account; a manager key granted to the account; and any later
    value of the room, with one or more renewals since the grant, of which the last one
    was done in `eᵣ`. Manager key and vector are then the ones that were drawn there, and
    a key opens the room only if it has the room's code of that vector; a key in the
    clear that does not is denied. Whichever value of the account the grant is redeemed
    with, it gives the earlier manager key: that opens the earlier room as the service
    does, and is denied by the later one if it gives the vector another code than the
    manager key in force; unless an impostor was met at the account. -/
theorem renewal_revokes_grants (kms : LocalKms) (e : Environment) (name : String) :
    ∃ r₀, ((create name).run kms.responder e).result = .ok r₀ ∧
      ∀ ops, (∀ op ∈ ops, op.SinceEpoch) → ∃ r managerKey, run kms ops r₀ = some r ∧
        HasManagerKey kms managerKey r ∧
        ∀ (eₐ : Environment) (password : String) (kdf : KdfParams) (a₀ : Account) (c₀ : Key),
          ((Account.create password kdf).run kms.responder eₐ).result = .ok (a₀, c₀) →
          ∀ before a c, Account.run kms before (a₀, c₀) = some (a, c) →
          ∀ eₘ, ∃ capability, ((r.appointManager a).run kms.responder eₘ).result = .ok capability ∧
            ∀ between eᵣ rest, (∀ op ∈ between, op.SinceEpoch) →
            (∀ op ∈ rest, op.SinceEpoch ∧ op.KeepsManagerKey) →
            ∃ r' managerKey', run kms (between ++ .renewManagerKey eᵣ :: rest) r = some r' ∧
              HasManagerKey kms managerKey' r' ∧ RenewedIn eᵣ managerKey' r' ∧
              (∀ k pair, (r'.unlock k).result = .ok pair → k.mac r'.keyPair.iv = .ok r'.mac) ∧
              (∀ k : Key, k.isEncrypted = false → k.mac r'.keyPair.iv ≠ .ok r'.mac →
                (r'.unlock k).result = .error .accessDenied) ∧
              ∀ since a' c', Account.run kms since (a₀, c₀) = some (a', c') →
                Account.MeetsImpostor kms since (a₀, c₀) ∨
                  (a'.redeemGrant c' capability).result = .ok managerKey.bare ∧
                  (∃ pair, (∀ eₛ, (r.unlockThroughService.run kms.responder eₛ).result = .ok pair) ∧
                    (r.unlockByGrant a' c' capability).result = .ok pair) ∧
                  (managerKey.mac r'.keyPair.iv ≠ managerKey'.mac r'.keyPair.iv →
                    (r'.unlockByGrant a' c' capability).result = .error .accessDenied) := by
  obtain ⟨r₀, managerKey₀, secret, hcreate, -, -, h₀⟩ := exists_create kms e name
  refine ⟨r₀, hcreate, ?_⟩
  intro ops hops
  have hpair : (KeyPair.ofKeyBytes secret).privateKey.material = .plain secret := rfl
  obtain ⟨r, managerKey, hrun, h, -⟩ := h₀.exists_run hpair hops
  refine ⟨r, managerKey, hrun, h.hasManagerKey, ?_⟩
  intro eₐ password kdf a₀ c₀ hcreate' before a c hbefore eₘ
  obtain ⟨a₁, kek, accountPair, hcreate₁, -, ha₀⟩ := Account.exists_create kms eₐ password kdf
  rw [hcreate'] at hcreate₁
  obtain ⟨rfl, rfl⟩ := Prod.mk.inj (Except.ok.inj hcreate₁)
  -- Whatever happened to the account, the manager key is sealed to its first key.
  have hsystem : kms.unwrap a.systemKey = .ok kek := by
    rw [(ha₀.continues.run hbefore).systemKey]
    exact ha₀.systemKey
  obtain ⟨capability, iv, happoint, hissue⟩ := h.exists_appointManager hsystem ha₀.isUsable eₘ
  refine ⟨capability, happoint, ?_⟩
  intro between eᵣ rest hbetween hrest
  obtain ⟨r', managerKey', hrun', h', hrenewed⟩ :=
    h.exists_run_renewing hpair hbetween hrest eᵣ
  refine ⟨r', managerKey', hrun', h'.hasManagerKey, hrenewed, fun _ _ => mac_of_unlock,
    fun _ => unlock_of_mac_ne, ?_⟩
  intro since a' c' hsince
  rcases ha₀.run hsince with ha' | himpostor
  · refine .inr ⟨ha'.redeemGrant hissue, ⟨_, h.consistent.unlock, h.unlockByGrant ha' hissue⟩, ?_⟩
    intro hne
    rw [h'.mac] at hne
    exact unlockByGrant_of_mac_ne ha' hissue hne
  · exact .inl himpostor

/-- A room with a manager key that consists of ones, which is granted to an account. The
    room's message key is renewed, then its manager key by one that consists of twos, and
    the room is stored. With its new client key the account opens the earlier room, and
    is denied by the later one. -/
theorem renewal_revokes_grants_example :
    ∃ r₀ r r' a₀ c₀ a' capability, ∃ pair : KeyPair,
      ((create "lobby").run (⟨exampleKey, rfl⟩ : LocalKms).responder
        ⟨.epoch, fun _ => 1, 0⟩).result = .ok r₀ ∧
      run ⟨exampleKey, rfl⟩ [.renewManagerKey ⟨.epoch, fun _ => 1, 0⟩] r₀ = some r ∧
      ((Account.create "correct horse" .standard).run (⟨exampleKey, rfl⟩ : LocalKms).responder
        ⟨.epoch, fun _ => 1, 0⟩).result = .ok (a₀, c₀) ∧
      ((r.appointManager a₀).run (⟨exampleKey, rfl⟩ : LocalKms).responder
        ⟨.epoch, fun _ => 1, 0⟩).result = .ok capability ∧
      Account.run ⟨exampleKey, rfl⟩ [.replaceClientKey c₀ exampleKey] (a₀, c₀)
        = some (a', exampleKey) ∧
      run ⟨exampleKey, rfl⟩ [.renewMessageKey ⟨.epoch, fun _ => 1, 0⟩,
        .renewManagerKey ⟨.epoch, fun _ => 2, 0⟩, .reload] r = some r' ∧
      (r.unlockByGrant a' exampleKey capability).result = .ok pair ∧
      (r'.unlockByGrant a' exampleKey capability).result = .error .accessDenied := by
  let kms : LocalKms := ⟨exampleKey, rfl⟩
  let e₁ : Environment := ⟨.epoch, fun _ => 1, 0⟩
  let e₂ : Environment := ⟨.epoch, fun _ => 2, 0⟩
  obtain ⟨r₀, hcreate, hruns⟩ := renewal_revokes_grants kms e₁ "lobby"
  obtain ⟨r, managerKey, hrun, hmanagerKey, hgrants⟩ := hruns [.renewManagerKey e₁]
    (List.forall_mem_singleton.mpr trivial)
  -- The manager key of the earlier room is the one that was drawn there.
  obtain ⟨r₁, managerKey₀, secret, hcreate₁, -, -, h₀⟩ := exists_create kms e₁ "lobby"
  obtain rfl : r₁ = r₀ := Except.ok.inj (hcreate₁.symm.trans hcreate)
  have hpair : (KeyPair.ofKeyBytes secret).privateKey.material = .plain secret := rfl
  obtain ⟨r₂, managerKey₂, happly, h₂, hdrawn⟩ := h₀.exists_renewal hpair e₁
  obtain rfl : r₂ = r := by
    rw [run, happly] at hrun
    exact Option.some.inj hrun
  obtain rfl := h₂.hasManagerKey.eq hmanagerKey
  obtain ⟨a₀, kek, accountPair, hcreate', -, ha₀⟩ :=
    Account.exists_create kms e₁ "correct horse" .standard
  obtain ⟨capability, happoint, hrenewals⟩ := hgrants e₁ _ _ _ _ hcreate' [] _ _ rfl e₁
  obtain ⟨r', managerKey', hrun', hmanagerKey', hrenewed, -, -, hredeems⟩ :=
    hrenewals [.renewMessageKey e₁] e₂ [.reload] (List.forall_mem_singleton.mpr (Int.le_refl 0))
      (List.forall_mem_singleton.mpr ⟨trivial, trivial⟩)
  obtain ⟨a', hreplace, -⟩ := ha₀.exists_replaceClientKey (rfl : exampleKey.isUsable = true)
  have hsince : Account.run kms [.replaceClientKey (a₀.clientKey "correct horse") exampleKey]
      (a₀, a₀.clientKey "correct horse") = some (a', exampleKey) := by
    rw [Account.run, hreplace]
    rfl
  have hpresents : Account.PresentsClientKey kms
      [.replaceClientKey (a₀.clientKey "correct horse") exampleKey]
      (a₀, a₀.clientKey "correct horse") :=
    Account.presentsClientKey_replaceClientKey fun _ _ => trivial
  have hne : managerKey.mac r'.keyPair.iv ≠ managerKey'.mac r'.keyPair.iv := by
    rw [Key.mac, Key.mac, hdrawn.secret, hrenewed.secret, hrenewed.iv]
    intro heq
    exact Hmac.mac_ne_example (Except.ok.inj heq)
  obtain himpostor | ⟨-, ⟨pair, -, hopens⟩, hdenied⟩ := hredeems _ _ _ hsince
  · exact absurd himpostor (Account.not_meetsImpostor hpresents)
  · exact ⟨r₁, r₂, r', a₀, _, a', capability, pair, hcreate, hrun, hcreate', happoint, hsince,
      hrun', hopens, hdenied hne⟩

end Room

end ChatKeys
