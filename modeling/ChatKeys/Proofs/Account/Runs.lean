/-
  ChatKeys.Proofs.Account.Runs

  What stays of an account, whatever is done to it.

  An `Operation` is anything that gives an account a new value: another client
  key, a reset of the password, a change of the staff grant, or being stored and
  read back.  `run` does one after the other as long as they succeed, and keeps
  track of the client key.

    * `apply_eq_some` — all that a single operation can do;
    * `Continues` — what no operation changes (`Continues.run`);
    * `Hierarchy.run` — the two ways to the key-encrypting key stay in agreement.

  Replacing the client key trusts the code of the old one.  Were there another key
  with the same code, one that opens what was wrapped under the client key
  (`Impostor`), the account would go on with whatever that key opens.  So the
  hierarchy is kept unless the run itself presents such a key (`MeetsImpostor`), which
  no run does that always presents the current client key (`not_meetsImpostor`).
-/
import ChatKeys.Proofs.Account.Hierarchy

namespace ChatKeys.Account

open Json

/-! ## Operations -/

/-- Something that gives an account a new value. What asks the service does so in
    an environment of its own. -/
inductive Operation where
  | replaceClientKey (old new : Key)
  | resetPassword (e : Environment) (id : Snowflake) (authorization : ResetAuthorization)
      (password : String)
  | appointStaff (e : Environment) (credential : Key)
  | dismissStaff
  /-- The account is stored and read back. -/
  | reload

/-- The account as it is read back from what is stored of it. -/
def reloaded (a : Account) : Option Account :=
  match codec.encode a with
  | .ok document => (codec.decodeText document).toOption
  | .error _ => none

/-- Does an operation to an account with its client key, if it succeeds. -/
def Operation.apply (kms : LocalKms) (a : Account) (c : Key) : Operation → Option (Account × Key)
  | replaceClientKey old new => (a.replaceClientKey old new).result.toOption.map (·, new)
  | resetPassword e id authorization password =>
    ((a.resetPassword id authorization password).run kms.responder e).result.toOption
  | appointStaff e credential =>
    ((a.appointStaff credential).run kms.responder e).result.toOption.map (·, c)
  | dismissStaff => some (a.dismissStaff, c)
  | reload => a.reloaded.map (·, c)

/-- Does operations one after the other, as long as they succeed. -/
def run (kms : LocalKms) : List Operation → Account × Key → Option (Account × Key)
  | [], s => some s
  | op :: ops, (a, c) => (op.apply kms a c).bind (run kms ops)

variable {kms : LocalKms} {kek c c' old new : Key} {pair : KeyPair} {a₀ a a' : Account}

theorem run_append {ops later : List Operation} (h : run kms ops (a₀, c) = some (a, c')) :
    run kms (ops ++ later) (a₀, c) = run kms later (a, c') := by
  induction ops generalizing a₀ c with
  | nil =>
    obtain ⟨rfl, rfl⟩ := Prod.mk.inj (Option.some.inj h)
    rfl
  | cons op ops ih =>
    obtain ⟨⟨a₁, c₁⟩, happly, hrest⟩ := Option.bind_eq_some_iff.mp h
    rw [List.cons_append, run, happly, Option.bind_some, ih hrest]

theorem reloaded_of_isWrapped (h : a.IsWrapped) : a.reloaded = some a :=
  (restores h).reload_eq

/-- An operation gives the account another client key, or leaves all but the staff
    grant as it is. The key-encrypting key is got from the service, or with a key
    that passes for the client key. -/
theorem apply_eq_some {op : Operation} (hwrapped : a.IsWrapped)
    (h : op.apply kms a c = some (a', c')) :
    (c' = c ∧ ∃ staff, a' = { a with staffCapability := staff }) ∨
      ∃ kek, a.withClientKey kek c' = .ok a' ∧
        (kms.unwrap a.systemKey = .ok kek ∨
          ∃ old, op = .replaceClientKey old c' ∧ (a.openKek old).result = .ok kek) := by
  cases op with
  | replaceClientKey old new =>
    simp only [Operation.apply, Option.map_eq_some_iff, toOption_eq_some_iff,
      result_replaceClientKey_eq_ok_iff] at h
    obtain ⟨_, ⟨kek, hopen, hnew⟩, h⟩ := h
    obtain ⟨rfl, rfl⟩ := Prod.mk.inj h
    exact .inr ⟨kek, hnew, .inr ⟨old, rfl, hopen⟩⟩
  | resetPassword e id authorization password =>
    simp only [Operation.apply, toOption_eq_some_iff, result_resetPassword_eq_ok_iff,
      LocalKms.result_unwrap_eq_ok_iff] at h
    obtain ⟨-, -, kek, hkek, hnew⟩ := h
    exact .inr ⟨kek, hnew, .inl hkek⟩
  | appointStaff e credential =>
    simp only [Operation.apply, Option.map_eq_some_iff, toOption_eq_some_iff,
      result_appointStaff_eq_ok_iff] at h
    obtain ⟨_, ⟨capability, -, rfl⟩, h⟩ := h
    obtain ⟨rfl, rfl⟩ := Prod.mk.inj h
    exact .inl ⟨rfl, some capability, rfl⟩
  | dismissStaff =>
    obtain ⟨rfl, rfl⟩ := Prod.mk.inj (Option.some.inj h)
    exact .inl ⟨rfl, none, rfl⟩
  | reload =>
    rw [Operation.apply, reloaded_of_isWrapped hwrapped] at h
    obtain ⟨rfl, rfl⟩ := Prod.mk.inj (Option.some.inj h)
    exact .inl ⟨rfl, a.staffCapability, rfl⟩

/-! ## What no operation changes -/

/-- What an account has in common with an earlier value of it, whatever was done
    in between. -/
structure Continues (a₀ a : Account) (c : Key) : Prop where
  nonce : a.nonce = a₀.nonce
  kdf : a.kdf = a₀.kdf
  systemKey : a.systemKey = a₀.systemKey
  keyPair : a.keyPair = a₀.keyPair
  isWrapped : a.IsWrapped
  /-- The code is always that of the current client key. -/
  mac : c.mac a.nonce = .ok a.mac

theorem Continues.apply {op : Operation} (hc : Continues a₀ a c)
    (h : op.apply kms a c = some (a', c')) : Continues a₀ a' c' := by
  rcases apply_eq_some hc.isWrapped h with ⟨rfl, staff, rfl⟩ | ⟨kek, hnew, -⟩
  · -- Only the staff grant is another one.
    exact { hc with isWrapped := ⟨hc.isWrapped.1, hc.isWrapped.2, hc.isWrapped.3⟩ }
  · obtain ⟨userKey, mac, huserKey, hmac, rfl⟩ := withClientKey_eq_ok_iff.mp hnew
    have huser : userKey.isEncrypted = true := Key.isEncrypted_of_wrap huserKey
    exact { hc with
      isWrapped := { hc.isWrapped with userKey := huser }
      mac := hmac }

theorem Continues.run {ops : List Operation} (hc : Continues a₀ a c)
    (h : run kms ops (a, c) = some (a', c')) : Continues a₀ a' c' := by
  induction ops generalizing a c with
  | nil =>
    obtain ⟨rfl, rfl⟩ := Prod.mk.inj (Option.some.inj h)
    exact hc
  | cons op ops ih =>
    obtain ⟨⟨a₁, c₁⟩, happly, hrest⟩ := Option.bind_eq_some_iff.mp h
    exact ih (hc.apply happly) hrest

/-! ## The hierarchy -/

/-- A key that passes for the client key: it has another secret but the same code,
    and opens the user key. -/
structure Impostor (a : Account) (c old : Key) : Prop where
  differs : old.secret ≠ c.secret
  code : old.mac a.nonce = c.mac a.nonce
  opens : ∃ kek : Key, kek.wrap old = .ok a.userKey

/-- Some time in a run the client key is replaced on the word of an impostor. -/
def MeetsImpostor (kms : LocalKms) : List Operation → Account × Key → Prop
  | [], _ => False
  | op :: ops, (a, c) =>
    (∃ old new, op = .replaceClientKey old new ∧ Impostor a c old) ∨
      ∃ s, op.apply kms a c = some s ∧ MeetsImpostor kms ops s

/-- Whenever the client key is replaced in a run, it is the current one that is
    presented. -/
def PresentsClientKey (kms : LocalKms) : List Operation → Account × Key → Prop
  | [], _ => True
  | op :: ops, (a, c) =>
    (∀ old new, op = .replaceClientKey old new → old.secret = c.secret) ∧
      ∀ s, op.apply kms a c = some s → PresentsClientKey kms ops s

theorem presentsClientKey_replaceClientKey {new : Key} {ops : List Operation}
    (h : ∀ s, (Operation.replaceClientKey c new).apply kms a c = some s →
      PresentsClientKey kms ops s) :
    PresentsClientKey kms (.replaceClientKey c new :: ops) (a, c) := by
  refine ⟨?_, h⟩
  intro old new' heq
  rw [(Operation.replaceClientKey.inj heq).1]

/-- Who always presents the current client key is no impostor. -/
theorem not_meetsImpostor {ops : List Operation} {s : Account × Key}
    (h : PresentsClientKey kms ops s) : ¬ MeetsImpostor kms ops s := by
  induction ops generalizing s with
  | nil => exact id
  | cons op ops ih =>
    obtain ⟨hop, hrest⟩ := h
    rintro (⟨old, new, heq, himpostor⟩ | ⟨s', happly, hlater⟩)
    · exact himpostor.differs (hop old new heq)
    · exact ih (hrest s' happly) hlater

theorem Hierarchy.apply {op : Operation} (hk : Hierarchy kms kek pair a c)
    (h : op.apply kms a c = some (a', c')) :
    Hierarchy kms kek pair a' c' ∨
      ∃ old new, op = .replaceClientKey old new ∧ Impostor a c old := by
  rcases apply_eq_some hk.isWrapped h with ⟨rfl, staff, rfl⟩ | ⟨kek', hnew, hservice | hclient⟩
  · exact .inl { hk with }
  · -- A reset: the service unwraps the key-encrypting key itself.
    rw [hk.systemKey] at hservice
    obtain rfl := Except.ok.inj hservice
    exact .inl (hk.withClientKey rfl hnew)
  · -- Another client key: the presented one is the current one, or an impostor.
    obtain ⟨old, rfl, hopen⟩ := hclient
    by_cases hold : old.secret = c.secret
    · have hkek := hk.eq_of_openKek hold hopen
      exact .inl (hk.withClientKey (by rw [hkek, Key.withIv_withIv]) hnew)
    · obtain ⟨hcode, hwrap⟩ := result_openKek_eq_ok_iff.mp hopen
      exact .inr ⟨old, c', rfl, hold, hcode.trans hk.mac.symm, kek', hwrap⟩

theorem Hierarchy.run {ops : List Operation} (hk : Hierarchy kms kek pair a c)
    (h : run kms ops (a, c) = some (a', c')) :
    Hierarchy kms kek pair a' c' ∨ MeetsImpostor kms ops (a, c) := by
  induction ops generalizing a c with
  | nil =>
    obtain ⟨rfl, rfl⟩ := Prod.mk.inj (Option.some.inj h)
    exact .inl hk
  | cons op ops ih =>
    obtain ⟨⟨a₁, c₁⟩, happly, hrest⟩ := Option.bind_eq_some_iff.mp h
    rcases hk.apply happly with hk₁ | himpostor
    · -- No impostor so far; the rest of the run starts with the hierarchy intact.
      rcases ih hk₁ hrest with hend | hlater
      · exact .inl hend
      · exact .inr (.inr ⟨(a₁, c₁), happly, hlater⟩)
    · exact .inr (.inl himpostor)

theorem Hierarchy.continues (hk : Hierarchy kms kek pair a c) : Continues a a c where
  nonce := rfl
  kdf := rfl
  systemKey := rfl
  keyPair := rfl
  isWrapped := hk.isWrapped
  mac := hk.mac

/-- Creating an account gives one. Whatever is done to it then, its fixed parts
    stay as they are. Unless an impostor was met, the service and the client key
    lead to the same key-encrypting key, the user key is that key wrapped under the
    client key with the account's vector, and the client key opens the pair that
    the account was created with. User key and code are then the same after any
    other run that ends with the same client key. -/
theorem exists_create_run (kms : LocalKms) (e : Environment) (password : String)
    (kdf : KdfParams) :
    ∃ a₀ c₀ kek pair,
      ((create password kdf).run kms.responder e).result = .ok (a₀, c₀) ∧
      KeyPair.ofSecret ((e.draw (nonceSize + KeyPair.privateKeySize)).1.drop nonceSize)
        = .ok pair ∧
      ∀ ops a c, run kms ops (a₀, c₀) = some (a, c) →
        Continues a₀ a c ∧
          (MeetsImpostor kms ops (a₀, c₀) ∨
            kms.unwrap a.systemKey = .ok kek ∧
            a.userKey.unwrap c = .ok (kek.withIv (ivOfNonce a.nonce)) ∧
            (kek.withIv (ivOfNonce a.nonce)).wrap c = .ok a.userKey ∧
            (a.unlock c).result = .ok (pair.withIv (ivOfNonce a.nonce)) ∧
            ∀ ops' a' c', run kms ops' (a₀, c₀) = some (a', c') → c'.secret = c.secret →
              MeetsImpostor kms ops' (a₀, c₀) ∨ (a'.userKey = a.userKey ∧ a'.mac = a.mac)) := by
  obtain ⟨a₀, kek, pair, hcreate, hpair, hk⟩ := exists_create kms e password kdf
  refine ⟨a₀, a₀.clientKey password, kek, pair, hcreate, hpair, ?_⟩
  intro ops a c hrun
  have hc : Continues a₀ a c := hk.continues.run hrun
  refine ⟨hc, ?_⟩
  -- The fixed parts stay whatever happens; for the others it counts whom the run met.
  rcases hk.run hrun with hend | himpostor
  · have hunlock := hend.unlock
    rw [← hc.nonce] at hunlock
    refine .inr ⟨hend.systemKey, Key.unwrap_eq_ok_iff.mpr hend.userKey, hend.userKey, hunlock, ?_⟩
    intro ops' a' c' hrun' hsecret
    have hnonce : a'.nonce = a.nonce := (hk.continues.run hrun').nonce.trans hc.nonce.symm
    rcases hk.run hrun' with hend' | himpostor'
    · exact .inr (hend.envelope_eq hend' hnonce hsecret)
    · exact .inl himpostor'
  · exact .inl himpostor

/-! ## Progress -/

/-- With the client key it can be replaced, and the hierarchy goes on with the new
    one. -/
theorem Hierarchy.exists_result_replaceClientKey (hk : Hierarchy kms kek pair a c)
    (hnew : new.isUsable = true) :
    ∃ a', (a.replaceClientKey c new).result = .ok a' ∧ Hierarchy kms kek pair a' new := by
  have hkek := Key.withIv_withIv kek (ivOfNonce a.nonce) (ivOfNonce a.nonce)
  obtain ⟨a', ha'⟩ := hk.exists_withClientKey hnew hkek
  exact ⟨a', result_replaceClientKey_eq_ok_iff.mpr ⟨_, hk.openKek, ha'⟩, hk.withClientKey hkek ha'⟩

/-- This is an operation of a run. -/
theorem Hierarchy.exists_replaceClientKey (hk : Hierarchy kms kek pair a c)
    (hnew : new.isUsable = true) :
    ∃ a', (Operation.replaceClientKey c new).apply kms a c = some (a', new) ∧
      Hierarchy kms kek pair a' new := by
  obtain ⟨a', hresult, hk'⟩ := hk.exists_result_replaceClientKey hnew
  refine ⟨a', ?_, hk'⟩
  rw [Operation.apply, hresult]
  rfl

/-- With an authorization for the account its password can be reset, whatever the
    client key was. -/
theorem Hierarchy.exists_resetPassword (hk : Hierarchy kms kek pair a c) (e : Environment)
    (authorization : ResetAuthorization) (password : String) :
    ∃ a', (Operation.resetPassword e authorization.accountId authorization password).apply kms a c
        = some (a', a.clientKey password) ∧
      Hierarchy kms kek pair a' (a.clientKey password) := by
  obtain ⟨a', ha'⟩ : ∃ a', a.withClientKey kek (a.clientKey password) = .ok a' :=
    hk.exists_withClientKey rfl rfl
  have hunwrap : ((Dialogue.unwrap a.systemKey).run kms.responder e).result = .ok kek :=
    LocalKms.result_unwrap_eq_ok_iff.mpr hk.systemKey
  refine ⟨a', toOption_eq_some_iff.mpr ?_, hk.withClientKey rfl ha'⟩
  exact result_resetPassword_eq_ok_iff.mpr ⟨rfl, rfl, kek, hunwrap, ha'⟩

/-- A new account whose client key is replaced, which is stored and read back, and
    whose password is then reset: the new password opens the first key pair. -/
theorem exists_create_run_example :
    ∃ a₀ c₀ a, ∃ kek : Key, ∃ pair : KeyPair,
      ((create "correct horse" .standard).run
          (⟨exampleKey, rfl⟩ : LocalKms).responder ⟨.epoch, fun _ => 0, 0⟩).result
        = .ok (a₀, c₀) ∧
      run ⟨exampleKey, rfl⟩ [.replaceClientKey c₀ exampleKey, .reload,
          .resetPassword ⟨.epoch, fun _ => 0, 0⟩ ⟨7⟩ ⟨⟨1⟩, ⟨7⟩⟩ "battery staple"] (a₀, c₀)
        = some (a, a.clientKey "battery staple") ∧
      Continues a₀ a (a.clientKey "battery staple") ∧
      (kek.withIv (ivOfNonce a.nonce)).wrap (a.clientKey "battery staple") = .ok a.userKey ∧
      (a.unlock (a.clientKey "battery staple")).result
        = .ok (pair.withIv (ivOfNonce a.nonce)) := by
  let kms : LocalKms := ⟨exampleKey, rfl⟩
  let e : Environment := ⟨.epoch, fun _ => 0, 0⟩
  obtain ⟨a₀, c₀, kek, pair, hcreate, -, hruns⟩ := exists_create_run kms e "correct horse" .standard
  obtain ⟨a₁, kek₁, pair₁, hcreate₁, -, hk⟩ := exists_create kms e "correct horse" .standard
  rw [hcreate] at hcreate₁
  obtain ⟨rfl, rfl⟩ := Prod.mk.inj (Except.ok.inj hcreate₁)
  -- Each operation succeeds on what the one before it left.
  obtain ⟨a₁, hreplace, hk₁⟩ := hk.exists_replaceClientKey (rfl : exampleKey.isUsable = true)
  have hreload : a₁.reloaded = some a₁ := reloaded_of_isWrapped hk₁.isWrapped
  obtain ⟨a, hreset, -⟩ := hk₁.exists_resetPassword e ⟨⟨1⟩, ⟨7⟩⟩ "battery staple"
  have hclientKey : a₁.clientKey "battery staple" = a.clientKey "battery staple" := by
    have hc := hk₁.continues.apply hreset
    rw [clientKey, clientKey, hc.nonce, hc.kdf]
  rw [hclientKey] at hreset
  have hrun : run kms [.replaceClientKey (a₀.clientKey "correct horse") exampleKey, .reload,
      .resetPassword e ⟨7⟩ ⟨⟨1⟩, ⟨7⟩⟩ "battery staple"] (a₀, a₀.clientKey "correct horse")
      = some (a, a.clientKey "battery staple") := by
    rw [run, hreplace, Option.bind_some, run, Operation.apply, hreload, Option.map_some,
      Option.bind_some, run, hreset]
    rfl
  obtain ⟨hc, himpostor | ⟨-, -, huserKey, hunlock, -⟩⟩ := hruns _ _ _ hrun
  · -- The only key that was presented is the client key.
    rcases himpostor with ⟨_, _, ⟨⟩, himpostor⟩ | ⟨s, -, hlater⟩
    · exact absurd rfl himpostor.differs
    · rcases hlater with ⟨_, _, ⟨⟩, -⟩ | ⟨s, -, ⟨_, _, ⟨⟩, -⟩ | ⟨_, -, ⟨⟩⟩⟩
  · exact ⟨a₀, _, a, kek, pair, hcreate, hrun, hc, huserKey, hunlock⟩

end ChatKeys.Account
