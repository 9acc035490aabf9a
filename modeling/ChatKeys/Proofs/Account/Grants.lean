/-
  ChatKeys.Proofs.Account.Grants

  What was granted to an account stays open to it, whatever becomes of its password.

  A `History` is an account and its client key, together with all that was granted
  to it so far.  It goes on by a `Step`: something is granted (`Gift`), or an
  operation gives the account a new value.

    * `result_grantTo_eq_ok_iff` — whatever is granted is sealed to the key that the
      service keeps for the account;
    * `Faithful.run` — so all that was ever granted is sealed to one and the same key;
    * `Hierarchy.redeemGrant` — which is the one that the client key opens.

  Grants are sealed through the service and opened with the client key.  That both
  lead to the same key is the account's hierarchy, which holds for every history that
  meets no impostor.
-/
import ChatKeys.Proofs.Account.Runs
import ChatKeys.Proofs.Capability
import ChatKeys.Room

namespace ChatKeys.Account

variable {kms : LocalKms} {e : Environment} {kek k c c' : Key} {pair : KeyPair}
  {a a' a₀ : Account} {capability : Capability}

/-! ## Granting -/

/-- A grant is sealed to the key that the service keeps for the account. -/
theorem result_grant_eq_ok_iff :
    ((a.grant k).run kms.responder e).result = .ok capability ↔
      ∃ kek, kms.unwrap a.systemKey = .ok kek ∧
        Capability.issue kek (e.draw ivSize).1 k = .ok capability := by
  simp only [grant, LocalKms.result_unwrap_bind_eq_ok_iff,
    Dialogue.result_bind_of_run (LocalKms.run_nonce _ _), Dialogue.run_liftM, mapError_eq_ok_iff]

/-- What can be granted to an account: a key at hand, or one that the service keeps
    for a room. -/
inductive Gift where
  | key (k : Key)
  | managerKey (r : Room)
  | messageKey (m : MessageKey)

/-- The key that is granted. -/
def Gift.reveal : Gift → Dialogue Key
  | key k => pure k
  | managerKey r => r.managerKey
  | messageKey m => m.unlock

def Gift.grantTo (a : Account) : Gift → Dialogue Capability
  | key k => a.grant k
  | managerKey r => r.appointManager a
  | messageKey m => m.grantTo a

/-- Whatever is granted, what is sealed is the key that it stands for. -/
theorem result_grantTo_eq_ok_iff {gift : Gift} :
    ((gift.grantTo a).run kms.responder e).result = .ok capability ↔
      ∃ k, (gift.reveal.run kms.responder e).result = .ok k ∧
        ((a.grant k).run kms.responder e).result = .ok capability := by
  cases gift with
  | key k =>
    constructor
    · intro h
      exact ⟨k, rfl, h⟩
    · rintro ⟨_, ⟨⟩, h⟩
      exact h
  | managerKey r =>
    -- The appointment reports itself and hands the grant on.
    simp only [Gift.grantTo, Gift.reveal, Room.appointManager, Room.managerKey,
      LocalKms.result_unwrap_bind_eq_ok_iff, LocalKms.result_unwrap_eq_ok_iff,
      Dialogue.result_noted_eq_ok_iff]
  | messageKey m =>
    simp only [Gift.grantTo, Gift.reveal, MessageKey.grantTo, MessageKey.unlock,
      LocalKms.result_unwrap_bind_eq_ok_iff, LocalKms.result_unwrap_eq_ok_iff]

/-! ## Histories -/

/-- A capability, and the key that it was issued for. -/
structure Grant where
  key : Key
  capability : Capability

/-- An account with its client key, all that was granted to it, and the credential
    that it was given as one of staff, if it still is. -/
structure History where
  account : Account
  clientKey : Key
  granted : List Grant
  credential : Option Key

/-- The history of an account that nothing was granted to yet. -/
def History.ofAccount (a : Account) (c : Key) : History := ⟨a, c, [], none⟩

/-- What an operation on an account has granted to it: a member of staff is given
    the credential. -/
def Operation.granted (a' : Account) : Operation → List Grant
  | appointStaff _ credential => (a'.staffCapability.map fun c => ⟨credential, c⟩).toList
  | _ => []

/-- The credential that is held after an operation. -/
def Operation.credential (held : Option Key) : Operation → Option Key
  | appointStaff _ credential => some credential
  | dismissStaff => none
  | _ => held

/-- One more thing that happens to an account. -/
inductive Step where
  | grant (e : Environment) (gift : Gift)
  | operate (op : Operation)

/-- Takes a step, if it succeeds. -/
def Step.apply (kms : LocalKms) (s : History) : Step → Option History
  | grant e gift => do
    let k ← (gift.reveal.run kms.responder e).result.toOption
    let c ← ((gift.grantTo s.account).run kms.responder e).result.toOption
    some { s with granted := ⟨k, c⟩ :: s.granted }
  | operate op => do
    let (a, c) ← op.apply kms s.account s.clientKey
    some { account := a, clientKey := c, granted := op.granted a ++ s.granted,
           credential := op.credential s.credential }

namespace History

/-- Takes steps one after the other, as long as they succeed. -/
def run (kms : LocalKms) : List Step → History → Option History
  | [], s => some s
  | step :: steps, s => (step.apply kms s).bind (run kms steps)

/-- The operations among the steps. -/
def operations : List Step → List Operation
  | [] => []
  | .grant _ _ :: steps => operations steps
  | .operate op :: steps => op :: operations steps

variable {s s' s₁ : History} {step : Step} {steps later : List Step}

theorem run_append (h : run kms steps s = some s₁) :
    run kms (steps ++ later) s = run kms later s₁ := by
  induction steps generalizing s with
  | nil =>
    obtain rfl := Option.some.inj h
    rfl
  | cons step steps ih =>
    obtain ⟨s₂, happly, hrest⟩ := Option.bind_eq_some_iff.mp h
    rw [List.cons_append, run, happly, Option.bind_some, ih hrest]

theorem apply_grant_eq_some_iff {gift : Gift} :
    (Step.grant e gift).apply kms s = some s' ↔
      ∃ k c, (gift.reveal.run kms.responder e).result = .ok k ∧
        ((gift.grantTo s.account).run kms.responder e).result = .ok c ∧
        s' = { s with granted := ⟨k, c⟩ :: s.granted } := by
  simp only [Step.apply, Option.bind_eq_bind, Option.bind_eq_some_iff, toOption_eq_some_iff,
    Option.some.injEq, exists_and_left, @eq_comm _ s']

theorem apply_operate_eq_some_iff {op : Operation} :
    (Step.operate op).apply kms s = some s' ↔
      ∃ a c, op.apply kms s.account s.clientKey = some (a, c) ∧
        s' = ⟨a, c, op.granted a ++ s.granted, op.credential s.credential⟩ := by
  simp only [Step.apply, Option.bind_eq_bind, Option.bind_eq_some_iff, Option.some.injEq,
    Prod.exists, @eq_comm _ s']

/-- Account and client key go through the operations among the steps. -/
theorem run_operations (h : run kms steps s = some s') :
    Account.run kms (operations steps) (s.account, s.clientKey)
      = some (s'.account, s'.clientKey) := by
  induction steps generalizing s with
  | nil =>
    obtain rfl := Option.some.inj h
    rfl
  | cons step steps ih =>
    obtain ⟨s₁, happly, hrest⟩ := Option.bind_eq_some_iff.mp h
    cases step with
    | grant e gift =>
      obtain ⟨k, c, -, -, rfl⟩ := apply_grant_eq_some_iff.mp happly
      have hlater := ih hrest
      exact hlater
    | operate op =>
      obtain ⟨a, c, hop, rfl⟩ := apply_operate_eq_some_iff.mp happly
      rw [operations, Account.run, hop]
      exact ih hrest

/-- Nothing that was granted is forgotten. -/
theorem granted_subset (h : run kms steps s = some s') : s.granted ⊆ s'.granted := by
  induction steps generalizing s with
  | nil =>
    obtain rfl := Option.some.inj h
    exact List.Subset.refl _
  | cons step steps ih =>
    obtain ⟨s₁, happly, hrest⟩ := Option.bind_eq_some_iff.mp h
    refine List.Subset.trans ?_ (ih hrest)
    cases step with
    | grant e gift =>
      obtain ⟨k, c, -, -, rfl⟩ := apply_grant_eq_some_iff.mp happly
      exact List.subset_cons_self _ _
    | operate op =>
      obtain ⟨a, c, -, rfl⟩ := apply_operate_eq_some_iff.mp happly
      exact List.subset_append_right _ _

end History

/-! ## What all histories have in common -/

theorem staffCapability_of_withClientKey (h : a.withClientKey kek c = .ok a') :
    a'.staffCapability = a.staffCapability := by
  obtain ⟨userKey, mac, -, -, rfl⟩ := withClientKey_eq_ok_iff.mp h
  rfl

/-- What an operation does to the grant of staff. -/
theorem staffCapability_of_apply {op : Operation} (hwrapped : a.IsWrapped)
    (h : op.apply kms a c = some (a', c')) :
    (∃ e credential capability, op = .appointStaff e credential ∧
        ((a.grant credential).run kms.responder e).result = .ok capability ∧
        a'.staffCapability = some capability) ∨
      (op = .dismissStaff ∧ a'.staffCapability = none) ∨
      (a'.staffCapability = a.staffCapability ∧ op.granted a' = [] ∧
        ∀ held, op.credential held = held) := by
  cases op with
  | appointStaff e credential =>
    simp only [Operation.apply, Option.map_eq_some_iff, toOption_eq_some_iff,
      result_appointStaff_eq_ok_iff] at h
    obtain ⟨_, ⟨capability, hgrant, rfl⟩, h⟩ := h
    obtain ⟨rfl, rfl⟩ := Prod.mk.inj h
    exact .inl ⟨e, credential, capability, rfl, hgrant, rfl⟩
  | dismissStaff =>
    obtain ⟨rfl, rfl⟩ := Prod.mk.inj (Option.some.inj h)
    exact .inr (.inl ⟨rfl, rfl⟩)
  | replaceClientKey old new =>
    simp only [Operation.apply, Option.map_eq_some_iff, toOption_eq_some_iff,
      result_replaceClientKey_eq_ok_iff] at h
    obtain ⟨_, ⟨kek, -, hnew⟩, h⟩ := h
    obtain ⟨rfl, rfl⟩ := Prod.mk.inj h
    exact .inr (.inr ⟨staffCapability_of_withClientKey hnew, rfl, fun _ => rfl⟩)
  | resetPassword e id authorization password =>
    simp only [Operation.apply, toOption_eq_some_iff, result_resetPassword_eq_ok_iff] at h
    obtain ⟨-, -, kek, -, hnew⟩ := h
    exact .inr (.inr ⟨staffCapability_of_withClientKey hnew, rfl, fun _ => rfl⟩)
  | reload =>
    rw [Operation.apply, reloaded_of_isWrapped hwrapped] at h
    obtain ⟨rfl, rfl⟩ := Prod.mk.inj (Option.some.inj h)
    exact .inr (.inr ⟨rfl, rfl, fun _ => rfl⟩)

/-- All that was granted is sealed to the one key that the service keeps for the
    account, and the credential of staff was granted like everything else. -/
structure Faithful (kms : LocalKms) (kek : Key) (a₀ : Account) (s : History) : Prop where
  continues : Continues a₀ s.account s.clientKey
  systemKey : kms.unwrap a₀.systemKey = .ok kek
  granted : ∀ g ∈ s.granted, ∃ iv, Capability.issue kek iv g.key = .ok g.capability
  staff : (s.credential = none ∧ s.account.staffCapability = none) ∨
    ∃ g ∈ s.granted, s.credential = some g.key ∧ s.account.staffCapability = some g.capability

namespace Faithful

variable {s s' : History} {step : Step} {steps : List Step}

/-- Every further grant is sealed to the same key. -/
theorem exists_issue (hf : Faithful kms kek a₀ s)
    (h : ((s.account.grant k).run kms.responder e).result = .ok capability) :
    ∃ iv, Capability.issue kek iv k = .ok capability := by
  obtain ⟨kek', hkek', hissue⟩ := result_grant_eq_ok_iff.mp h
  rw [hf.continues.systemKey, hf.systemKey] at hkek'
  obtain rfl := Except.ok.inj hkek'
  exact ⟨_, hissue⟩

theorem apply (hf : Faithful kms kek a₀ s) (h : step.apply kms s = some s') :
    Faithful kms kek a₀ s' := by
  cases step with
  | grant e gift =>
    obtain ⟨k, capability, hreveal, hgrantTo, rfl⟩ := History.apply_grant_eq_some_iff.mp h
    obtain ⟨k', hreveal', hgrant⟩ := result_grantTo_eq_ok_iff.mp hgrantTo
    obtain rfl := Except.ok.inj (hreveal.symm.trans hreveal')
    refine { hf with granted := ?_, staff := ?_ }
    · exact List.forall_mem_cons.mpr ⟨hf.exists_issue hgrant, hf.granted⟩
    · exact hf.staff.imp_right fun ⟨g, hg, hstaff⟩ => ⟨g, List.mem_cons_of_mem _ hg, hstaff⟩
  | operate op =>
    obtain ⟨a, c, happly, rfl⟩ := History.apply_operate_eq_some_iff.mp h
    have hcontinues : Continues a₀ a c := hf.continues.apply happly
    rcases staffCapability_of_apply hf.continues.isWrapped happly with
      ⟨e, credential, capability, rfl, hgrant, hstaff⟩ | ⟨rfl, hstaff⟩ | ⟨hstaff, hgranted, hheld⟩
    · -- Staff is appointed: the credential is one more grant.
      have hgranted : (Operation.appointStaff e credential).granted a
          = [⟨credential, capability⟩] := by
        rw [Operation.granted, hstaff]
        rfl
      refine ⟨hcontinues, hf.systemKey, ?_, .inr ⟨⟨credential, capability⟩, ?_, rfl, hstaff⟩⟩
      · simp only [hgranted, List.singleton_append]
        exact List.forall_mem_cons.mpr ⟨hf.exists_issue hgrant, hf.granted⟩
      · simp only [hgranted, List.singleton_append]
        exact List.mem_cons_self
    · exact ⟨hcontinues, hf.systemKey, hf.granted, .inl ⟨rfl, hstaff⟩⟩
    · simp only [hgranted, List.nil_append, hheld]
      refine ⟨hcontinues, hf.systemKey, hf.granted, ?_⟩
      rw [hstaff]
      exact hf.staff

theorem run (hf : Faithful kms kek a₀ s) (h : History.run kms steps s = some s') :
    Faithful kms kek a₀ s' := by
  induction steps generalizing s with
  | nil =>
    obtain rfl := Option.some.inj h
    exact hf
  | cons step steps ih =>
    obtain ⟨s₁, happly, hrest⟩ := Option.bind_eq_some_iff.mp h
    exact ih (hf.apply happly) hrest

theorem isStaff_eq (hf : Faithful kms kek a₀ s) :
    s.account.isStaff = s.credential.isSome := by
  rw [isStaff]
  rcases hf.staff with ⟨hcredential, hstaff⟩ | ⟨g, -, hcredential, hstaff⟩ <;>
    rw [hcredential, hstaff] <;> rfl

/-- An account that is not of staff has no credential to give. -/
theorem staffCredential_of_none (hf : Faithful kms kek a₀ s) (h : s.credential = none) (c : Key) :
    (s.account.staffCredential c).result = .error .accessDenied := by
  rcases hf.staff with ⟨-, hstaff⟩ | ⟨g, -, hcredential, -⟩
  · rw [staffCredential, hstaff]
    rfl
  · cases h.symm.trans hcredential

end Faithful

/-! ## Redeeming -/

theorem Hierarchy.isUsable (h : Hierarchy kms kek pair a c) : kek.isUsable = true := by
  obtain ⟨_, hkey, -⟩ := KeyPair.wrap_eq_ok_iff.mp h.keyPair
  exact Key.isUsable_of_wrap hkey

/-- What is sealed to the key-encrypting key opens with the client key. -/
theorem Hierarchy.redeemGrant {iv : Bytes} (h : Hierarchy kms kek pair a c)
    (hissue : Capability.issue kek iv k = .ok capability) :
    (a.redeemGrant c capability).result = .ok k.bare := by
  rw [Account.redeemGrant, Logged.result_bind, h.openKek]
  exact Capability.redeem_issue hissue (Key.cipherSecret_withIv kek _)

/-- The credential that staff was given last is the one that the client key opens. -/
theorem Faithful.staffCredential_of_some {s : History} (hf : Faithful kms kek a₀ s)
    (hk : Hierarchy kms kek pair s.account s.clientKey) (h : s.credential = some k) :
    (s.account.staffCredential s.clientKey).result = .ok k.bare := by
  rcases hf.staff with ⟨hcredential, -⟩ | ⟨g, hg, hcredential, hstaff⟩
  · cases h.symm.trans hcredential
  · obtain rfl := Option.some.inj (h.symm.trans hcredential)
    obtain ⟨iv, hissue⟩ := hf.granted g hg
    rw [staffCredential, hstaff]
    exact hk.redeemGrant hissue

/-- Any key in the clear can be granted. -/
theorem exists_grant (hsystem : kms.unwrap a.systemKey = .ok kek) (hkek : kek.isUsable = true)
    (hk : k.isEncrypted = false) (e : Environment) :
    ∃ capability, ((a.grant k).run kms.responder e).result = .ok capability := by
  obtain ⟨capability, hissue⟩ :=
    Capability.exists_issue hkek (Environment.length_draw ivSize e) hk
  exact ⟨capability, result_grant_eq_ok_iff.mpr ⟨kek, hsystem, hissue⟩⟩

/-- Whatever happens to a new account, anything in the clear can be granted to it,
    and it is of staff exactly while it holds a credential. All that was granted up to
    some time opens at any later time with the client key of that time, and so does
    the credential that staff was given last; unless an impostor was met in between. -/
theorem grants_stay_open (kms : LocalKms) (e : Environment) (password : String)
    (kdf : KdfParams) :
    ∃ a₀ c₀, ((create password kdf).run kms.responder e).result = .ok (a₀, c₀) ∧
      ∀ steps s, History.run kms steps (.ofAccount a₀ c₀) = some s →
        (∀ (gift : Gift) (e' : Environment) (k : Key),
          (gift.reveal.run kms.responder e').result = .ok k → k.isEncrypted = false →
          ∃ capability, (Step.grant e' gift).apply kms s
            = some { s with granted := ⟨k, capability⟩ :: s.granted }) ∧
        s.account.isStaff = s.credential.isSome ∧
        (s.credential = none →
          ∀ c, (s.account.staffCredential c).result = .error .accessDenied) ∧
        ∀ later s', History.run kms later s = some s' →
          MeetsImpostor kms (History.operations (steps ++ later)) (a₀, c₀) ∨
            (∀ g ∈ s.granted, g.key.isEncrypted = false ∧
              (s'.account.redeemGrant s'.clientKey g.capability).result = .ok g.key.bare) ∧
            ∀ k, s'.credential = some k →
              (s'.account.staffCredential s'.clientKey).result = .ok k.bare := by
  obtain ⟨a₀, kek, pair, hcreate, -, hk⟩ := exists_create kms e password kdf
  refine ⟨a₀, a₀.clientKey password, hcreate, ?_⟩
  intro steps s hrun
  have hstart : Faithful kms kek a₀ (.ofAccount a₀ (a₀.clientKey password)) :=
    ⟨hk.continues, hk.systemKey, List.forall_mem_nil _, .inl ⟨rfl, (of_create hcreate).2⟩⟩
  have hf : Faithful kms kek a₀ s := hstart.run hrun
  refine ⟨?_, hf.isStaff_eq, hf.staffCredential_of_none, ?_⟩
  · intro gift e' k hreveal hplain
    have hsystem : kms.unwrap s.account.systemKey = .ok kek := hf.continues.systemKey ▸ hf.systemKey
    obtain ⟨capability, hgrant⟩ := exists_grant hsystem hk.isUsable hplain e'
    exact ⟨capability, History.apply_grant_eq_some_iff.mpr
      ⟨k, capability, hreveal, result_grantTo_eq_ok_iff.mpr ⟨k, hreveal, hgrant⟩, rfl⟩⟩
  · intro later s' hlater
    have hf' : Faithful kms kek a₀ s' := hf.run hlater
    have hwhole : History.run kms (steps ++ later) (.ofAccount a₀ (a₀.clientKey password))
        = some s' := by
      rw [History.run_append hrun, hlater]
    rcases hk.run (History.run_operations hwhole) with hk' | himpostor
    · refine .inr ⟨?_, fun k => hf'.staffCredential_of_some hk'⟩
      intro g hg
      obtain ⟨iv, hissue⟩ := hf'.granted g (History.granted_subset hlater hg)
      exact ⟨Capability.not_isEncrypted_of_issue hissue, hk'.redeemGrant hissue⟩
    · exact .inl himpostor

/-- An account is granted a key, changes its client key, becomes one of staff, and is
    stored and read back: with the new client key both the grant and the credential
    open. -/
theorem grants_stay_open_example :
    ∃ a₀ c₀ s g,
      ((create "correct horse" .standard).run
          (⟨exampleKey, rfl⟩ : LocalKms).responder ⟨.epoch, fun _ => 0, 0⟩).result
        = .ok (a₀, c₀) ∧
      History.run ⟨exampleKey, rfl⟩ [.grant ⟨.epoch, fun _ => 0, 0⟩ (.key (exampleKey.withIv [1])),
          .operate (.replaceClientKey c₀ exampleKey),
          .operate (.appointStaff ⟨.epoch, fun _ => 0, 0⟩ exampleKey), .operate .reload]
          (.ofAccount a₀ c₀) = some s ∧
      g ∈ s.granted ∧ g.key = exampleKey.withIv [1] ∧ s.clientKey = exampleKey ∧
      (s.account.redeemGrant exampleKey g.capability).result = .ok (exampleKey.withIv [1]).bare ∧
      (s.account.staffCredential exampleKey).result = .ok exampleKey.bare := by
  let kms : LocalKms := ⟨exampleKey, rfl⟩
  let e : Environment := ⟨.epoch, fun _ => 0, 0⟩
  let gift : Key := exampleKey.withIv [1]
  obtain ⟨a₀, c₀, hcreate, hhistories⟩ := grants_stay_open kms e "correct horse" .standard
  obtain ⟨a₁, kek, pair, hcreate₁, -, hk⟩ := exists_create kms e "correct horse" .standard
  rw [hcreate] at hcreate₁
  obtain ⟨rfl, rfl⟩ := Prod.mk.inj (Except.ok.inj hcreate₁)
  -- Each step succeeds on what the one before it left.
  obtain ⟨hgrants, -⟩ := hhistories [] _ rfl
  obtain ⟨capability, hgrant⟩ := hgrants (.key gift) e gift rfl rfl
  obtain ⟨a₁, hreplace, hk₁⟩ := hk.exists_replaceClientKey (rfl : exampleKey.isUsable = true)
  obtain ⟨staff, hstaff⟩ :
      ∃ staff, ((a₁.grant exampleKey).run kms.responder e).result = .ok staff :=
    exists_grant hk₁.systemKey hk.isUsable rfl e
  let a₂ : Account := { a₁ with staffCapability := some staff }
  have happoint : (Operation.appointStaff e exampleKey).apply kms a₁ exampleKey
      = some (a₂, exampleKey) := by
    rw [Operation.apply, result_appointStaff_eq_ok_iff.mpr ⟨staff, hstaff, rfl⟩]
    rfl
  have hreload : a₂.reloaded = some a₂ :=
    reloaded_of_isWrapped ⟨hk₁.isWrapped.1, hk₁.isWrapped.2, hk₁.isWrapped.3⟩
  let granted : Grant := ⟨gift, capability⟩
  let s₀ : History := ⟨a₀, a₀.clientKey "correct horse", [granted], none⟩
  let s₁ : History := ⟨a₁, exampleKey, [granted], none⟩
  let s₂ : History := ⟨a₂, exampleKey, [⟨exampleKey, staff⟩, granted], some exampleKey⟩
  have hstep₀ : (Step.grant e (.key gift)).apply kms
      (.ofAccount a₀ (a₀.clientKey "correct horse")) = some s₀ := hgrant
  have hstep₁ : (Step.operate (.replaceClientKey (a₀.clientKey "correct horse") exampleKey)).apply
      kms s₀ = some s₁ :=
    History.apply_operate_eq_some_iff.mpr ⟨a₁, exampleKey, hreplace, rfl⟩
  have hstep₂ : (Step.operate (.appointStaff e exampleKey)).apply kms s₁ = some s₂ :=
    History.apply_operate_eq_some_iff.mpr ⟨a₂, exampleKey, happoint, rfl⟩
  have hstep₃ : (Step.operate .reload).apply kms s₂ = some s₂ :=
    History.apply_operate_eq_some_iff.mpr
      ⟨a₂, exampleKey, congrArg (Option.map (·, exampleKey)) hreload, rfl⟩
  have hrun : History.run kms [.grant e (.key gift),
      .operate (.replaceClientKey (a₀.clientKey "correct horse") exampleKey),
      .operate (.appointStaff e exampleKey), .operate .reload]
      (.ofAccount a₀ (a₀.clientKey "correct horse")) = some s₂ := by
    rw [History.run, hstep₀, Option.bind_some, History.run, hstep₁, Option.bind_some, History.run,
      hstep₂, Option.bind_some, History.run, hstep₃]
    rfl
  obtain ⟨-, -, -, hopens⟩ := hhistories _ s₂ hrun
  have hpresents : PresentsClientKey kms
      [.replaceClientKey (a₀.clientKey "correct horse") exampleKey, .appointStaff e exampleKey,
        .reload] (a₀, a₀.clientKey "correct horse") := by
    refine presentsClientKey_replaceClientKey fun _ _ => ⟨?_, fun _ _ => ⟨?_, fun _ _ => trivial⟩⟩
    · intro old new heq
      cases heq
    · intro old new heq
      cases heq
  rcases hopens [] s₂ rfl with himpostor | ⟨hredeem, hcredential⟩
  · exact absurd himpostor (not_meetsImpostor hpresents)
  · have hmem : granted ∈ s₂.granted := List.mem_cons_of_mem _ List.mem_cons_self
    exact ⟨a₀, _, s₂, granted, hcreate, hrun, hmem, rfl, rfl, (hredeem granted hmem).2,
      hcredential exampleKey rfl⟩

end ChatKeys.Account
