/-
  ChatKeys.Proofs.Reset.Runs

  From a request to a new password, over whole runs.

  A `ResetStep` issues a request, stores or reads back one, reads a confirmation,
  checks one, or resets the password of an account.  What it needs must be at hand; a
  step that fails leaves everything but the service as it was.  The service may be any
  at all.

    * `ResetStep.mem_requests_apply` and the lemmas behind it — where each single thing
      that is at hand after a step comes from;
    * `ResetStep.exists_first` — whatever holds after a run but not before it was
      brought about by one of its steps;
    * `ResetStep.IsIssued`, `ResetStep.IsForeign` — the only two ways to a request;
    * `ResetStep.resets_sound_and_complete` — confirmations are accepted exactly when
      they should be, and every permission in a run comes from one that was.
-/
import ChatKeys.Proofs.Account.Operations
import ChatKeys.Proofs.Reset.Confirmation
import ChatKeys.Proofs.Reset.Stored
import ChatKeys.Proofs.Service.Calls

namespace ChatKeys

/-! ## The operations -/

/-- With the master key at hand a request is issued whenever there is a time at which it
    can end. -/
theorem LocalKms.exists_issue_reset (kms : LocalKms) (e : Environment) (account : Snowflake)
    {lifetime : Duration} {t : Time} (h : e.clock.add? lifetime = some t) :
    ∃ q, ((ResetRequest.issue account lifetime).run kms.responder e).result = .ok q ∧
      q.accountId = account ∧ q.requestedAt = e.clock ∧ q.expiresAt = t := by
  let drawn := e.draw ResetRequest.secretSize
  refine ⟨⟨Snowflake.ofTime e.clock drawn.2.drawWord.1, account, drawn.1, e.clock, t⟩, ?_,
    rfl, rfl, rfl⟩
  have hclock : drawn.2.clock = e.clock := rfl
  rw [ResetRequest.issue, Dialogue.result_bind_of_run (run_nonce _ _),
    Dialogue.result_bind_of_run run_now, Dialogue.result_bind_of_run run_freshSnowflake, hclock, h]
  rfl

section Mismatch

variable {σ : Type} {r : Responder σ} {s : σ} {a : Account} {id : Snowflake}
  {authorization : ResetAuthorization} {password : String}

/-- The authorization of another account is refused, and nothing else happens. -/
theorem Account.run_resetPassword_of_ne (h : authorization.accountId ≠ id) :
    (a.resetPassword id authorization password).run r s =
      ⟨.error (.error .accessDenied), [.authorizationMismatch id authorization.accountId], s⟩ := by
  rw [resetPassword, if_pos h]
  rfl

theorem Account.calls_resetPassword_of_ne (h : authorization.accountId ≠ id) :
    (a.resetPassword id authorization password).calls r s = [] := by
  rw [resetPassword, if_pos h]
  rfl

end Mismatch

/-! ## Runs -/

/-- What is at hand in a run. -/
structure ResetState (σ : Type) where
  service : σ
  requests : List ResetRequest
  /-- The stored forms of requests. -/
  documents : List String
  confirmations : List ResetConfirmation
  authorizations : List ResetAuthorization
  /-- The accounts whose password was reset, by identifier, with their new client keys. -/
  resets : List (Snowflake × Account × Key)

/-- Nothing but the service. -/
def ResetState.start {σ : Type} (service : σ) : ResetState σ where
  service := service
  requests := []
  documents := []
  confirmations := []
  authorizations := []
  resets := []

/-- Something that is done in a run. -/
inductive ResetStep where
  | issue (account : Snowflake) (lifetime : Duration)
  | save (q : ResetRequest)
  | load (document : String)
  | parse (text : String)
  | authorize (q : ResetRequest) (c : ResetConfirmation) (now : Time)
  | resetPassword (account : Account) (id : Snowflake) (authorization : ResetAuthorization)
      (password : String)

/-- What is at hand once a result has come in; an error brings nothing. -/
def gained {ε α : Type} (result : Except ε α) (held : List α) : List α :=
  match result with
  | .ok a => a :: held
  | .error _ => held

theorem mem_gained_iff {ε α : Type} {result : Except ε α} {held : List α} {a : α} :
    a ∈ gained result held ↔ result = .ok a ∨ a ∈ held := by
  cases result with
  | ok b => simp [gained, eq_comm]
  | error e => simp [gained]

namespace ResetStep

variable {σ : Type} {r : Responder σ} {s : ResetState σ} {service : σ} {step : ResetStep}
  {steps : List ResetStep} {q : ResetRequest} {c : ResetConfirmation} {a : ResetAuthorization}
  {document : String}

/-- What the step needs is at hand: there are no other requests, confirmations and
    authorizations than those that a run has got. -/
def IsPossible (s : ResetState σ) : ResetStep → Prop
  | save q => q ∈ s.requests
  | authorize q c _ => q ∈ s.requests ∧ c ∈ s.confirmations
  | resetPassword _ _ authorization _ => authorization ∈ s.authorizations
  | issue .. | load .. | parse .. => True

instance (s : ResetState σ) : (step : ResetStep) → Decidable (step.IsPossible s)
  | save q => inferInstanceAs (Decidable (q ∈ s.requests))
  | authorize q c _ => inferInstanceAs (Decidable (q ∈ s.requests ∧ c ∈ s.confirmations))
  | resetPassword _ _ authorization _ =>
    inferInstanceAs (Decidable (authorization ∈ s.authorizations))
  | issue .. | load .. | parse .. => .isTrue trivial

def perform (r : Responder σ) (s : ResetState σ) : ResetStep → ResetState σ
  | issue account lifetime =>
    let o := (ResetRequest.issue account lifetime).run r s.service
    { s with service := o.state, requests := gained o.result s.requests }
  | save q => { s with documents := gained (ResetRequest.codec.encode q) s.documents }
  | load document =>
    { s with requests := gained (ResetRequest.codec.decodeText document) s.requests }
  | parse text =>
    { s with confirmations := gained (ResetConfirmation.parse text) s.confirmations }
  | authorize q c now =>
    { s with authorizations := gained (q.authorize c now).result s.authorizations }
  | resetPassword account id authorization password =>
    let o := (account.resetPassword id authorization password).run r s.service
    { s with service := o.state, resets := gained (o.result.map (id, ·)) s.resets }

/-- Takes a step, if it is possible. -/
def apply (r : Responder σ) (s : ResetState σ) (step : ResetStep) : ResetState σ :=
  if step.IsPossible s then step.perform r s else s

/-- Takes steps one after the other. -/
def run (r : Responder σ) (s : ResetState σ) (steps : List ResetStep) : ResetState σ :=
  steps.foldl (apply r) s

/-! ### What a step brings -/

theorem mem_requests_apply (h : q ∈ (step.apply r s).requests) :
    q ∈ s.requests ∨
      (∃ account lifetime, step = issue account lifetime ∧
        ((ResetRequest.issue account lifetime).run r s.service).result = .ok q) ∨
      ∃ document, step = load document ∧ ResetRequest.codec.decodeText document = .ok q := by
  rw [apply] at h
  split at h
  · cases step with
    | issue account lifetime =>
      rcases mem_gained_iff.mp h with hok | hold
      · exact .inr (.inl ⟨account, lifetime, rfl, hok⟩)
      · exact .inl hold
    | load document =>
      rcases mem_gained_iff.mp h with hok | hold
      · exact .inr (.inr ⟨document, rfl, hok⟩)
      · exact .inl hold
    | _ => exact .inl h
  · exact .inl h

theorem mem_documents_apply (h : document ∈ (step.apply r s).documents) :
    document ∈ s.documents ∨
      ∃ q, step = save q ∧ q ∈ s.requests ∧ ResetRequest.codec.encode q = .ok document := by
  rw [apply] at h
  split at h
  · next hpossible =>
    cases step with
    | save q =>
      rcases mem_gained_iff.mp h with hok | hold
      · exact .inr ⟨q, rfl, hpossible, hok⟩
      · exact .inl hold
    | _ => exact .inl h
  · exact .inl h

theorem mem_confirmations_apply (h : c ∈ (step.apply r s).confirmations) :
    c ∈ s.confirmations ∨ ∃ text, step = parse text ∧ ResetConfirmation.parse text = .ok c := by
  rw [apply] at h
  split at h
  · cases step with
    | parse text =>
      rcases mem_gained_iff.mp h with hok | hold
      · exact .inr ⟨text, rfl, hok⟩
      · exact .inl hold
    | _ => exact .inl h
  · exact .inl h

theorem mem_authorizations_apply (h : a ∈ (step.apply r s).authorizations) :
    a ∈ s.authorizations ∨
      ∃ q c now, step = authorize q c now ∧ q ∈ s.requests ∧ c ∈ s.confirmations ∧
        (q.authorize c now).result = .ok a := by
  rw [apply] at h
  split at h
  · next hpossible =>
    cases step with
    | authorize q c now =>
      rcases mem_gained_iff.mp h with hok | hold
      · exact .inr ⟨q, c, now, rfl, hpossible.1, hpossible.2, hok⟩
      · exact .inl hold
    | _ => exact .inl h
  · exact .inl h

/-- A password is only reset with an authorization for the account. -/
theorem mem_resets_apply {id : Snowflake} {renewed : Account × Key}
    (h : (id, renewed) ∈ (step.apply r s).resets) :
    (id, renewed) ∈ s.resets ∨ ∃ a ∈ s.authorizations, a.accountId = id := by
  rw [apply] at h
  split at h
  · next hpossible =>
    cases step with
    | resetPassword account id' authorization password =>
      rcases mem_gained_iff.mp h with hok | hold
      · obtain ⟨v, hv, hpair⟩ := map_eq_ok_iff.mp hok
        obtain ⟨rfl, rfl⟩ := Prod.mk.inj hpair
        exact .inr ⟨authorization, hpossible, (Account.result_resetPassword_eq_ok_iff.mp hv).1⟩
      · exact .inl hold
    | _ => exact .inl h
  · exact .inl h

/-! ### Along a run -/

theorem run_append (before later : List ResetStep) :
    run r s (before ++ later) = run r (run r s before) later :=
  List.foldl_append

/-- What is at hand stays at hand. -/
theorem subset_apply (step : ResetStep) :
    s.requests ⊆ (step.apply r s).requests ∧
      s.authorizations ⊆ (step.apply r s).authorizations := by
  have hgained : ∀ {ε α : Type} (result : Except ε α) (held : List α), held ⊆ gained result held :=
    fun _ _ _ ha => mem_gained_iff.mpr (.inr ha)
  rw [apply]
  split
  · cases step with
    | issue account lifetime => exact ⟨hgained _ _, List.Subset.refl _⟩
    | load document => exact ⟨hgained _ _, List.Subset.refl _⟩
    | authorize q c now => exact ⟨List.Subset.refl _, hgained _ _⟩
    | _ => exact ⟨List.Subset.refl _, List.Subset.refl _⟩
  · exact ⟨List.Subset.refl _, List.Subset.refl _⟩

theorem subset_run (steps : List ResetStep) :
    s.requests ⊆ (run r s steps).requests ∧ s.authorizations ⊆ (run r s steps).authorizations := by
  induction steps generalizing s with
  | nil => exact ⟨List.Subset.refl _, List.Subset.refl _⟩
  | cons step steps ih =>
    have hstep := subset_apply (r := r) (s := s) step
    have hrest := ih (s := step.apply r s)
    exact ⟨List.Subset.trans hstep.1 hrest.1, List.Subset.trans hstep.2 hrest.2⟩

/-- What holds after a run but not before it was brought about by one of its steps. -/
theorem exists_first {P : ResetState σ → Prop} (hstart : ¬P s) (h : P (run r s steps)) :
    ∃ before step after, steps = before ++ step :: after ∧ ¬P (run r s before) ∧
      P (step.apply r (run r s before)) := by
  induction steps generalizing s with
  | nil => exact absurd h hstart
  | cons step steps ih =>
    by_cases hstep : P (step.apply r s)
    · exact ⟨[], step, steps, rfl, hstart, hstep⟩
    · obtain ⟨before, first, after, rfl, hnot, hfirst⟩ := ih hstep h
      exact ⟨step :: before, first, after, rfl, hnot, hfirst⟩

/-! ## Where requests come from -/

/-- The request was issued in the run. -/
def IsIssued (r : Responder σ) (service : σ) (steps : List ResetStep) (q : ResetRequest) : Prop :=
  ∃ before account lifetime after, steps = before ++ issue account lifetime :: after ∧
    ((ResetRequest.issue account lifetime).run r (run r (.start service) before).service).result
      = .ok q

/-- The request was read from a document that the run had not stored. -/
def IsForeign (r : Responder σ) (service : σ) (steps : List ResetStep) (q : ResetRequest) : Prop :=
  ∃ before document after, steps = before ++ load document :: after ∧
    document ∉ (run r (.start service) before).documents ∧
    ResetRequest.codec.decodeText document = .ok q

/-- A stored request is at hand. -/
theorem exists_of_mem_documents (h : document ∈ (run r (.start service) steps).documents) :
    ∃ q ∈ (run r (.start service) steps).requests,
      ResetRequest.codec.decodeText document = .ok q := by
  have hstart : document ∉ (ResetState.start service).documents := List.not_mem_nil
  obtain ⟨before, step, after, rfl, hnot, hfirst⟩ :=
    exists_first (P := fun s => document ∈ s.documents) hstart h
  obtain hold | ⟨q, rfl, hq, hencode⟩ := mem_documents_apply hfirst
  · exact absurd hold hnot
  · refine ⟨q, ?_, ResetRequest.decodeText_of_encode hencode⟩
    rw [run_append]
    exact (subset_run _).1 hq

/-- A request that is at hand was issued, or comes from elsewhere: reading what was
    stored in the run gives no request that was not at hand. -/
theorem isIssued_or_isForeign (h : q ∈ (run r (.start service) steps).requests) :
    IsIssued r service steps q ∨ IsForeign r service steps q := by
  have hstart : q ∉ (ResetState.start service).requests := List.not_mem_nil
  obtain ⟨before, step, after, rfl, hnot, hfirst⟩ :=
    exists_first (P := fun s => q ∈ s.requests) hstart h
  obtain hold | ⟨account, lifetime, rfl, hissue⟩ | ⟨document, rfl, hdecode⟩ :=
    mem_requests_apply hfirst
  · exact absurd hold hnot
  · exact .inl ⟨before, account, lifetime, after, rfl, hissue⟩
  · refine .inr ⟨before, document, after, rfl, ?_, hdecode⟩
    -- Had the document been stored before, the request would have been at hand.
    intro hstored
    obtain ⟨q', hq', hdecode'⟩ := exists_of_mem_documents hstored
    obtain rfl : q = q' := Except.ok.inj (hdecode.symm.trans hdecode')
    exact hnot hq'

/-! ## Where permissions come from -/

theorem exists_parsed (h : c ∈ (run r (.start service) steps).confirmations) :
    ∃ text, parse text ∈ steps ∧ ResetConfirmation.parse text = .ok c := by
  have hstart : c ∉ (ResetState.start service).confirmations := List.not_mem_nil
  obtain ⟨before, step, after, rfl, hnot, hfirst⟩ :=
    exists_first (P := fun s => c ∈ s.confirmations) hstart h
  obtain hold | ⟨text, rfl, hparse⟩ := mem_confirmations_apply hfirst
  · exact absurd hold hnot
  · exact ⟨text, by simp, hparse⟩

/-- The authorization was given for a confirmation that was accepted: both request and
    confirmation were at hand by then, and the authorization is for the account of the
    request. -/
def IsEarned (r : Responder σ) (service : σ) (steps : List ResetStep) (a : ResetAuthorization) :
    Prop :=
  ∃ before q c now after, steps = before ++ authorize q c now :: after ∧
    q ∈ (run r (.start service) before).requests ∧
    c ∈ (run r (.start service) before).confirmations ∧
    q.Accepts c now ∧ a = ⟨q.id, q.accountId⟩

theorem isEarned (h : a ∈ (run r (.start service) steps).authorizations) :
    IsEarned r service steps a := by
  have hstart : a ∉ (ResetState.start service).authorizations := List.not_mem_nil
  obtain ⟨before, step, after, rfl, hnot, hfirst⟩ :=
    exists_first (P := fun s => a ∈ s.authorizations) hstart h
  obtain hold | ⟨q, c, now, rfl, hq, hc, hauthorize⟩ := mem_authorizations_apply hfirst
  · exact absurd hold hnot
  · obtain ⟨haccepts, ha⟩ := ResetRequest.result_authorize_eq_ok_iff.mp hauthorize
    exact ⟨before, q, c, now, after, rfl, hq, hc, haccepts, ha⟩

/-- Whose password was reset had an authorization. -/
theorem exists_authorization {id : Snowflake} {renewed : Account × Key}
    (h : (id, renewed) ∈ (run r (.start service) steps).resets) :
    ∃ a ∈ (run r (.start service) steps).authorizations, a.accountId = id := by
  have hstart : (id, renewed) ∉ (ResetState.start service).resets := List.not_mem_nil
  obtain ⟨before, step, after, rfl, hnot, hfirst⟩ :=
    exists_first (P := fun s => (id, renewed) ∈ s.resets) hstart h
  obtain hold | ⟨a, ha, hid⟩ := mem_resets_apply hfirst
  · exact absurd hold hnot
  · refine ⟨a, ?_, hid⟩
    rw [run_append]
    exact (subset_run _).2 ha

/-- A text that is read brings its confirmation. -/
theorem mem_confirmations_of_parse {text : String} (h : ResetConfirmation.parse text = .ok c) :
    c ∈ ((parse text).apply r s).confirmations := by
  have hpossible : (parse text).IsPossible s := trivial
  rw [apply, if_pos hpossible]
  exact mem_gained_iff.mpr (.inl h)

/-- A confirmation that is accepted brings its authorization. -/
theorem mem_authorizations_of_authorize {now : Time} (hq : q ∈ s.requests)
    (hc : c ∈ s.confirmations) (h : (q.authorize c now).result = .ok a) :
    a ∈ ((authorize q c now).apply r s).authorizations := by
  have hpossible : (authorize q c now).IsPossible s := ⟨hq, hc⟩
  rw [apply, if_pos hpossible]
  exact mem_gained_iff.mpr (.inl h)

/-- Whoever has the text that a request gives gets its authorization in time. -/
theorem mem_authorizations_of_confirmation {now : Time} (hq : q ∈ s.requests)
    (htime : now < q.expiresAt) :
    ⟨q.id, q.accountId⟩ ∈
      (run r s [parse q.confirmation, authorize q ⟨q.id, q.mac⟩ now]).authorizations := by
  have hauthorize : (q.authorize ⟨q.id, q.mac⟩ now).result = .ok ⟨q.id, q.accountId⟩ :=
    ResetRequest.result_authorize_eq_ok_iff.mpr ⟨ResetRequest.accepts_confirmation htime, rfl⟩
  rw [run, List.foldl_cons, List.foldl_cons, List.foldl_nil]
  refine mem_authorizations_of_authorize ((subset_apply _).1 hq) ?_ hauthorize
  exact mem_confirmations_of_parse q.parse_confirmation

/-- Resetting passwords is sound and complete.

    A confirmation is accepted exactly if it names the request, has its whole code and
    is in time; it then gives the identifiers of the request, and is refused alike in all
    other cases. The text that a request gives is read as such a confirmation.

    In a run, requests are issued or come from elsewhere, confirmations are read from
    texts, authorizations come from confirmations that were accepted, and passwords are
    reset with authorizations for the account. While a request has not expired, its text
    leads to its authorization. An authorization for another account is refused without
    a call of the service, whatever the account and the service. -/
theorem resets_sound_and_complete (r : Responder σ) (service : σ) (steps : List ResetStep) :
    (∀ (q : ResetRequest) (c : ResetConfirmation) (now : Time),
      ((∃ a, (q.authorize c now).result = .ok a) ↔
        c.requestId = q.id ∧ c.mac = Hmac.mac q.key (Bytes.ofString q.id.text) ∧
          now < q.expiresAt) ∧
      (∀ a, (q.authorize c now).result = .ok a →
        a.requestId = q.id ∧ a.accountId = q.accountId) ∧
      ∀ e, (q.authorize c now).result = .error e → e = .accessDenied) ∧
    (∀ q : ResetRequest, q.id.text.length = 13 ∧
      ∃ c, ResetConfirmation.parse q.confirmation = .ok c ∧ c.requestId = q.id ∧
        c.mac = Hmac.mac q.key (Bytes.ofString q.id.text)) ∧
    (∀ q ∈ (run r (.start service) steps).requests,
      (IsIssued r service steps q ∨ IsForeign r service steps q) ∧
      ∀ now, now < q.expiresAt →
        ⟨q.id, q.accountId⟩ ∈ (run r (.start service)
          (steps ++ [parse q.confirmation, authorize q ⟨q.id, q.mac⟩ now])).authorizations) ∧
    (∀ c ∈ (run r (.start service) steps).confirmations,
      ∃ text, parse text ∈ steps ∧ ResetConfirmation.parse text = .ok c) ∧
    (∀ a ∈ (run r (.start service) steps).authorizations, IsEarned r service steps a) ∧
    (∀ id renewed, (id, renewed) ∈ (run r (.start service) steps).resets →
      ∃ a ∈ (run r (.start service) steps).authorizations, a.accountId = id) ∧
    ∀ (account : Account) (id : Snowflake) (a : ResetAuthorization) (password : String) (s : σ),
      (∀ renewed, ((account.resetPassword id a password).run r s).result = .ok renewed →
        a.accountId = id) ∧
      (a.accountId ≠ id →
        ((account.resetPassword id a password).run r s).result = .error (.error .accessDenied) ∧
        (account.resetPassword id a password).calls r s = []) := by
  refine ⟨?_, ?_, ?_, fun c => exists_parsed, fun a => isEarned,
    fun id renewed => exists_authorization, ?_⟩
  · intro q c now
    refine ⟨?_, ?_, fun e => ResetRequest.eq_accessDenied_of_authorize⟩
    · simp only [ResetRequest.result_authorize_eq_ok_iff, exists_and_left, exists_eq, and_true]
      exact Iff.rfl
    · intro a ha
      obtain ⟨-, rfl⟩ := ResetRequest.result_authorize_eq_ok_iff.mp ha
      exact ⟨rfl, rfl⟩
  · intro q
    exact ⟨q.id.length_text, ⟨q.id, q.mac⟩, q.parse_confirmation, rfl, rfl⟩
  · intro q hq
    refine ⟨isIssued_or_isForeign hq, fun now htime => ?_⟩
    rw [run_append]
    exact mem_authorizations_of_confirmation hq htime
  · intro account id a password s
    refine ⟨fun renewed h => (Account.result_resetPassword_eq_ok_iff.mp h).1, fun hne => ?_⟩
    rw [Account.run_resetPassword_of_ne hne, Account.calls_resetPassword_of_ne hne]
    exact ⟨rfl, rfl⟩

/-- A request for one account, good for an hour: its text gives the authorization for
    this account, which is refused for another one. -/
theorem resets_sound_and_complete_example :
    ∃ q : ResetRequest, q.accountId = ⟨7⟩ ∧
      (run (⟨exampleKey, rfl⟩ : LocalKms).responder (.start ⟨.epoch, fun _ => 0, 0⟩)
        [issue ⟨7⟩ (.ofSeconds 3600)]).requests = [q] ∧
      ⟨q.id, ⟨7⟩⟩ ∈ (run (⟨exampleKey, rfl⟩ : LocalKms).responder (.start ⟨.epoch, fun _ => 0, 0⟩)
        [issue ⟨7⟩ (.ofSeconds 3600), parse q.confirmation,
          authorize q ⟨q.id, q.mac⟩ .epoch]).authorizations ∧
      ∀ (account : Account) (password : String) (e : Environment),
        ((account.resetPassword ⟨8⟩ ⟨q.id, ⟨7⟩⟩ password).run
            (⟨exampleKey, rfl⟩ : LocalKms).responder e).result = .error (.error .accessDenied) ∧
        (account.resetPassword ⟨8⟩ ⟨q.id, ⟨7⟩⟩ password).calls
            (⟨exampleKey, rfl⟩ : LocalKms).responder e = [] := by
  let kms : LocalKms := ⟨exampleKey, rfl⟩
  let e : Environment := ⟨.epoch, fun _ => 0, 0⟩
  have hbounds : (3600000000000 : Int) < 2 ^ 63 * nsPerSecond := by decide
  have hend : Time.epoch.add? (.ofSeconds 3600) = some ⟨3600000000000, by decide, hbounds⟩ :=
    Json.epoch_add?_of_ns_eq rfl
  obtain ⟨q, hissue, haccount, -, hexpires⟩ := kms.exists_issue_reset e ⟨7⟩ hend
  have hrequests : (run kms.responder (.start e) [issue ⟨7⟩ (.ofSeconds 3600)]).requests = [q] := by
    have hpossible : (issue ⟨7⟩ (.ofSeconds 3600)).IsPossible (ResetState.start e) := trivial
    rw [run, List.foldl_cons, List.foldl_nil, apply, if_pos hpossible, perform]
    show gained ((ResetRequest.issue ⟨7⟩ (.ofSeconds 3600)).run kms.responder e).result [] = [q]
    rw [hissue]
    rfl
  obtain ⟨-, -, hrequest, -, -, -, hreset⟩ :=
    resets_sound_and_complete kms.responder e [issue ⟨7⟩ (.ofSeconds 3600)]
  have hq : q ∈ (run kms.responder (.start e) [issue ⟨7⟩ (.ofSeconds 3600)]).requests := by
    rw [hrequests]
    exact List.mem_singleton_self q
  have htime : Time.epoch < q.expiresAt := by
    rw [hexpires]
    show (0 : Int) < 3600000000000
    decide
  have hauthorized := (hrequest q hq).2 .epoch htime
  rw [haccount] at hauthorized
  have hother : (⟨7⟩ : Snowflake) ≠ ⟨8⟩ := by decide
  refine ⟨q, haccount, hrequests, hauthorized, fun account password e => ?_⟩
  exact (hreset account ⟨8⟩ ⟨q.id, ⟨7⟩⟩ password e).2 hother

end ResetStep

end ChatKeys
