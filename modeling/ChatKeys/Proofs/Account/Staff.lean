/-
  ChatKeys.Proofs.Account.Staff

  Who is of staff can set up the service again.

  The credential of staff is the service's master key.  On its way through a capability it
  loses its vector and its context, and comes back bare.

    * `LocalKms.responder_congr` — a service is determined by the secret of its master
      key: another with the same secret answers every question in the same way;
    * `LocalKms.exists_ofCredential_bare` — what staff gets back makes such a service;
    * `staff_rebuilds_service` — staff gets it back, whatever became of the account.
-/
import ChatKeys.Proofs.Account.Grants

namespace ChatKeys

namespace LocalKms

variable {kms kms' : LocalKms}

theorem unwrap_congr (h : kms'.master.cipherSecret = kms.master.cipherSecret) (w : Key) :
    kms'.unwrap w = kms.unwrap w := by
  rw [unwrap, unwrap, Key.unwrap_congr h]

theorem generate_congr (h : kms'.master.cipherSecret = kms.master.cipherSecret) (type : KeyType)
    (context : KeyContext) (e : Environment) :
    kms'.generate type context e = kms.generate type context e := by
  simp only [generate, Key.wrap_congr h]

/-- Two services with the secret of one master key answer all questions alike. -/
theorem responder_congr (h : kms'.master.cipherSecret = kms.master.cipherSecret) :
    kms'.responder = kms.responder := by
  have hgenerate : kms'.generate = kms.generate :=
    funext fun type => funext fun context => funext fun e => generate_congr h type context e
  have hunwrap : kms'.unwrap = kms.unwrap := funext fun w => unwrap_congr h w
  rw [responder, responder, hgenerate, hunwrap]

/-- A master key is a credential also without its vector and context. -/
theorem exists_ofCredential_bare (kms : LocalKms) :
    ∃ kms' : LocalKms, ofCredential kms.master.bare = .ok kms' ∧
      kms'.master.cipherSecret = kms.master.cipherSecret := by
  have husable : kms.master.bare.isUsable = true := kms.isUsable_master
  refine ⟨⟨kms.master.bare, husable⟩, ?_, Key.cipherSecret_bare kms.master⟩
  rw [ofCredential, dif_pos husable]

/-- What one of two such services makes the other one opens, to the same key. -/
theorem exists_generate_of_congr (h : kms'.master.cipherSecret = kms.master.cipherSecret)
    (type : KeyType) (context : KeyContext) (e : Environment) :
    ∃ w later k, kms'.generate type context e = (.ok w, later) ∧ kms'.unwrap w = .ok k ∧
      kms.unwrap w = .ok k ∧ k.type = type ∧ k.context = some context := by
  obtain ⟨k, w, later, hgenerate, hunwrap, htype, hcontext, -⟩ :=
    kms'.exists_generate type context e
  exact ⟨w, later, k, hgenerate, hunwrap, (unwrap_congr h w).symm.trans hunwrap, htype, hcontext⟩

end LocalKms

namespace Account

variable {kms : LocalKms} {kek k c : Key} {pair : KeyPair} {a : Account}

/-- Anything in the clear can be given to an account as the credential of staff. -/
theorem Hierarchy.exists_appointStaff (hk : Hierarchy kms kek pair a c)
    (hplain : k.isEncrypted = false) (e : Environment) :
    ∃ a', (Operation.appointStaff e k).apply kms a c = some (a', c) ∧
      Hierarchy kms kek pair a' c := by
  obtain ⟨capability, hgrant⟩ := exists_grant hk.systemKey hk.isUsable hplain e
  refine ⟨{ a with staffCapability := some capability }, ?_, { hk with }⟩
  rw [Operation.apply, result_appointStaff_eq_ok_iff.mpr ⟨capability, hgrant, rfl⟩]
  rfl

/-- Whatever happened to an account since it was created: while it holds the credential of
    the service, its client key opens the credential, and that sets up a service which
    answers like the first one. Every key there is is unwrapped or refused alike by both,
    and what the new one makes the first one opens to the same key; unless an impostor was
    met in between. -/
theorem staff_rebuilds_service (kms : LocalKms) (e : Environment) (password : String)
    (kdf : KdfParams) :
    ∃ a₀ c₀, ((create password kdf).run kms.responder e).result = .ok (a₀, c₀) ∧
      ∀ steps s, History.run kms steps (.ofAccount a₀ c₀) = some s →
        s.credential = some kms.master →
        MeetsImpostor kms (History.operations steps) (a₀, c₀) ∨
          ∃ credential kms', (s.account.staffCredential s.clientKey).result = .ok credential ∧
            LocalKms.ofCredential credential = .ok kms' ∧
            (∀ w, kms'.unwrap w = kms.unwrap w) ∧
            (∀ type context e', ∃ w later k,
              kms'.generate type context e' = (.ok w, later) ∧ kms'.unwrap w = .ok k ∧
              kms.unwrap w = .ok k ∧ k.type = type ∧ k.context = some context) ∧
            kms'.responder = kms.responder := by
  obtain ⟨a₀, kek, pair, hcreate, -, hk⟩ := exists_create kms e password kdf
  refine ⟨a₀, a₀.clientKey password, hcreate, ?_⟩
  intro steps s hrun hcredential
  have hstart : Faithful kms kek a₀ (.ofAccount a₀ (a₀.clientKey password)) :=
    ⟨hk.continues, hk.systemKey, List.forall_mem_nil _, .inl ⟨rfl, (of_create hcreate).2⟩⟩
  have hf : Faithful kms kek a₀ s := hstart.run hrun
  rcases hk.run (History.run_operations hrun) with hk' | himpostor
  · obtain ⟨kms', hof, hsecret⟩ := kms.exists_ofCredential_bare
    exact .inr ⟨_, kms', hf.staffCredential_of_some hk' hcredential, hof,
      LocalKms.unwrap_congr hsecret, LocalKms.exists_generate_of_congr hsecret,
      LocalKms.responder_congr hsecret⟩
  · exact .inl himpostor

/-- A member of staff changes the client key, and is stored and read back. The service that
    is set up with the new client key opens the account's system key. -/
theorem staff_rebuilds_service_example :
    ∃ a₀ c₀ s credential kms',
      ((create "correct horse" .standard).run
          (⟨exampleKey, rfl⟩ : LocalKms).responder ⟨.epoch, fun _ => 0, 0⟩).result
        = .ok (a₀, c₀) ∧
      History.run ⟨exampleKey, rfl⟩ [.operate (.appointStaff ⟨.epoch, fun _ => 0, 0⟩ exampleKey),
          .operate (.replaceClientKey c₀ exampleKey), .operate .reload]
          (.ofAccount a₀ c₀) = some s ∧
      s.credential = some exampleKey ∧
      (s.account.staffCredential s.clientKey).result = .ok credential ∧
      LocalKms.ofCredential credential = .ok kms' ∧
      kms'.unwrap s.account.systemKey = LocalKms.unwrap ⟨exampleKey, rfl⟩ s.account.systemKey := by
  let kms : LocalKms := ⟨exampleKey, rfl⟩
  let e : Environment := ⟨.epoch, fun _ => 0, 0⟩
  obtain ⟨a₀, c₀, hcreate, hhistories⟩ := staff_rebuilds_service kms e "correct horse" .standard
  obtain ⟨a₁, kek, pair, hcreate₁, -, hk⟩ := exists_create kms e "correct horse" .standard
  rw [hcreate] at hcreate₁
  obtain ⟨rfl, rfl⟩ := Prod.mk.inj (Except.ok.inj hcreate₁)
  -- Each operation succeeds on what the one before it left.
  obtain ⟨a₁, happoint, hk₁⟩ := hk.exists_appointStaff (rfl : exampleKey.isEncrypted = false) e
  obtain ⟨a₂, hreplace, hk₂⟩ := hk₁.exists_replaceClientKey (rfl : exampleKey.isUsable = true)
  have hreload : Operation.reload.apply kms a₂ exampleKey = some (a₂, exampleKey) :=
    congrArg (Option.map (·, exampleKey)) (reloaded_of_isWrapped hk₂.isWrapped)
  let c₀ := a₀.clientKey "correct horse"
  have hrun : History.run kms [.operate (.appointStaff e exampleKey),
      .operate (.replaceClientKey c₀ exampleKey), .operate .reload] (.ofAccount a₀ c₀)
      = some ⟨a₂, exampleKey, (Operation.appointStaff e exampleKey).granted a₁ ++ [],
          some exampleKey⟩ := by
    rw [History.run, History.apply_operate_eq_some_iff.mpr ⟨_, _, happoint, rfl⟩,
      Option.bind_some, History.run, History.apply_operate_eq_some_iff.mpr ⟨_, _, hreplace, rfl⟩,
      Option.bind_some, History.run, History.apply_operate_eq_some_iff.mpr ⟨_, _, hreload, rfl⟩]
    rfl
  have hpresents : PresentsClientKey kms
      [.appointStaff e exampleKey, .replaceClientKey c₀ exampleKey, .reload] (a₀, c₀) := by
    refine ⟨by rintro _ _ ⟨⟩, fun s hs => ?_⟩
    obtain rfl : (a₁, c₀) = s := Option.some.inj (happoint.symm.trans hs)
    exact presentsClientKey_replaceClientKey fun _ _ => ⟨by rintro _ _ ⟨⟩, fun _ _ => trivial⟩
  rcases hhistories _ _ hrun rfl with himpostor | ⟨credential, kms', hopen, hof, hunwrap, -⟩
  · exact absurd himpostor (not_meetsImpostor hpresents)
  · exact ⟨a₀, c₀, _, credential, kms', hcreate, hrun, rfl, hopen, hof, hunwrap _⟩

end Account

end ChatKeys
