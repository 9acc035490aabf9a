/-
  ChatKeys.Proofs.Reset.Lifetime

  Requests that live as long as the settings of a host say.

    * `SecurityConfig.exists_document_iff` — stored settings can ask for any lifetime of whole
      seconds up to the greatest word, and for no other;
    * `Time.add?_ofSeconds_eq_none_iff` — a time so much later than another is beyond the end of
      time exactly if their seconds are;
    * `ResetRequest.issue_by_settings` — so a request ends when it should, or issuing it fails
      with the service, or it is abandoned at the end of time.
-/
import ChatKeys.Config
import ChatKeys.Proofs.Key.Stored
import ChatKeys.Proofs.Service.Draws
import ChatKeys.Proofs.Service.Failures

namespace ChatKeys

open Json

/-! ## Stored settings -/

namespace SecurityConfig

theorem restores_lifetime (n : UInt64) : durationCodec.Restores (.ofSeconds n) := by
  obtain ⟨v, hv, hread⟩ := Codec.restores_uint64 n
  refine ⟨v, ?_, fun rest hrest => ?_⟩
  · rw [← hv]
    show Except.ok (Value.integer ((Duration.ofSeconds n).seconds : Nat)) = _
    rw [Duration.seconds_ofSeconds]
    rfl
  · exact Reader.bind_eq_ok_iff.mpr ⟨n, rest, hread rest hrest, rfl⟩

/-- What is read as a lifetime is a number of whole seconds. -/
theorem exists_of_reads_lifetime {d : Duration} (h : durationCodec.Reads d) :
    ∃ n, d = .ofSeconds n := by
  obtain ⟨s, rest, hread⟩ := h
  obtain ⟨n, _, -, hn⟩ := Reader.bind_eq_ok_iff.mp hread
  exact ⟨n, (Reader.pure_eq_ok_iff.mp hn).1.symm⟩

/-- Settings with a lifetime of whole seconds survive being stored. -/
theorem restores {c : SecurityConfig} {n : UInt64} (h : c.passwordResetLifetime = .ofSeconds n) :
    codec.Restores c :=
  Record.restores_codec (by decide)
    ⟨.inr ⟨rfl, KdfParams.restores _⟩, .inr ⟨rfl, by rw [h]; exact restores_lifetime n⟩,
      .inr ⟨rfl, Codec.restores_size _⟩, trivial⟩ rfl

/-- The lifetime of stored settings is one of whole seconds, also where it is missing. -/
theorem exists_lifetime_of_decode {document : Bytes} {c : SecurityConfig}
    (h : codec.decode document = .ok c) : ∃ n, c.passwordResetLifetime = .ofSeconds n := by
  obtain ⟨⟨_, lifetime, _, _⟩, ⟨-, hlifetime, -⟩, rfl⟩ :=
    Record.reads_of_codec (Codec.reads_of_decode h)
  rcases hlifetime with habsent | hreads
  · exact ⟨3600, (Option.some.inj habsent).symm⟩
  · exact exists_of_reads_lifetime hreads

/-- Settings can be stored exactly if their lifetime is one of whole seconds. -/
theorem exists_document_iff {c : SecurityConfig} :
    (∃ document, codec.decode document = .ok c) ↔ ∃ n, c.passwordResetLifetime = .ofSeconds n :=
  ⟨fun ⟨_, h⟩ => exists_lifetime_of_decode h, fun ⟨_, h⟩ => ⟨_, (restores h).decode_text⟩⟩

end SecurityConfig

/-! ## The end of time -/

/-- A time some whole seconds later is beyond the end of time exactly if its second is. -/
theorem Time.add?_ofSeconds_eq_none_iff {t : Time} {n : UInt64} :
    t.add? (.ofSeconds n) = none ↔ 2 ^ 63 ≤ t.seconds + n.toNat := by
  have hparts := t.seconds_nanos
  have hnanos := t.nanos_lt
  have hle := t.le_ns
  have hns : (Duration.ofSeconds n).ns = n.toNat * nsPerSecond := rfl
  simp only [nsPerSecond] at hparts hnanos hle hns
  rw [add?, ofNs?, hns]
  split
  · next hin =>
    simp only [nsPerSecond] at hin
    refine iff_of_false (Option.some_ne_none _) ?_
    omega
  · next hout =>
    simp only [nsPerSecond] at hout
    refine iff_of_true rfl ?_
    omega

/-! ## Issuing -/

namespace ResetRequest

variable {σ : Type} {r : Responder σ} {s : σ} {account : Snowflake} {lifetime : Duration}

/-- The time at which a request is issued: what the clock says once there are random bytes. -/
def issueTime (r : Responder σ) (s : σ) : Time := (r.time (r.nonce secretSize s).2).1

theorem result_issue_of_error {cause : KmsError} (h : (r.nonce secretSize s).1 = .error cause) :
    ((issue account lifetime).run r s).result =
      .error (.error (.ofKms "reset key generation" cause)) := by
  show (((Dialogue.settle _ (r.nonce secretSize s).1).bind _).run r _).result = _
  rw [h, Dialogue.settle_error_bind, Dialogue.run_settle_error]

/-- With its random bytes, a request is issued if there is a time at which it can end. -/
theorem exists_result_issue (account : Snowflake) (lifetime : Duration) {secret : Bytes}
    (h : (r.nonce secretSize s).1 = .ok secret) :
    ∃ id, ((issue account lifetime).run r s).result =
      match (issueTime r s).add? lifetime with
      | none => .error .endOfTime
      | some expiresAt => .ok ⟨id, account, secret, issueTime r s, expiresAt⟩ := by
  have hreply : r.nonce secretSize s = (.ok secret, (r.nonce secretSize s).2) := Prod.ext h rfl
  -- The clock is read twice: for the request, and for its identifier.
  let later := (r.time (r.nonce secretSize s).2).2
  refine ⟨Snowflake.ofTime (r.time later).1 (r.word (r.time later).2).1, ?_⟩
  rw [issue, Dialogue.run_nonce_bind hreply]
  show (Dialogue.run r (match (issueTime r s).add? lifetime with
    | none => _
    | some expiresAt => _) _).result = _
  cases (issueTime r s).add? lifetime with
  | none => rfl
  | some expiresAt => rfl

/-- Issuing a request that would end beyond the end of time is abandoned. -/
theorem result_issue_of_le {secret : Bytes} {n : UInt64} (h : (r.nonce secretSize s).1 = .ok secret)
    (hend : 2 ^ 63 ≤ (issueTime r s).seconds + n.toNat) :
    ((issue account (.ofSeconds n)).run r s).result = .error .endOfTime := by
  obtain ⟨id, hresult⟩ := exists_result_issue account (.ofSeconds n) h
  rw [hresult, Time.add?_ofSeconds_eq_none_iff.mpr hend]

/-- Any other request is issued. -/
theorem exists_issue_of_lt {secret : Bytes} {n : UInt64} (h : (r.nonce secretSize s).1 = .ok secret)
    (hend : (issueTime r s).seconds + n.toNat < 2 ^ 63) :
    ∃ q, ((issue account (.ofSeconds n)).run r s).result = .ok q ∧ q.accountId = account ∧
      q.key = secret ∧ q.requestedAt = issueTime r s ∧
      q.expiresAt.ns = (issueTime r s).ns + (Duration.ofSeconds n).ns := by
  have hsome : (issueTime r s).add? (.ofSeconds n) ≠ none := fun hnone =>
    Int.not_lt.mpr (Time.add?_ofSeconds_eq_none_iff.mp hnone) hend
  obtain ⟨expiresAt, hadd⟩ := Option.ne_none_iff_exists'.mp hsome
  obtain ⟨id, hresult⟩ := exists_result_issue account (.ofSeconds n) h
  rw [hadd] at hresult
  exact ⟨_, hresult, rfl, rfl, rfl, Time.ns_add? hadd⟩

/-- Whatever settings are read and whatever the service and the clock say: if the service has no
    random bytes, issuing a request fails with its error. Otherwise the request is for the
    account and ends exactly as long after its issue as the settings say, if its end is before
    2 ^ 63 seconds after the start of 1970. If it is not, issuing the request is abandoned,
    without an error for the caller. -/
theorem issue_by_settings {document : Bytes} {config : SecurityConfig}
    (hconfig : SecurityConfig.codec.decode document = .ok config) {σ : Type} (r : Responder σ)
    (s : σ) (account : Snowflake) :
    let start := issueTime r s
    let lifetime := config.passwordResetLifetime
    let result := ((issue account lifetime).run r s).result
    (∀ cause, (r.nonce secretSize s).1 = .error cause →
      result = .error (.error (.ofKms "reset key generation" cause))) ∧
    ∀ secret, (r.nonce secretSize s).1 = .ok secret →
      (start.seconds + lifetime.seconds < 2 ^ 63 →
        ∃ q, result = .ok q ∧ q.accountId = account ∧ q.key = secret ∧ q.requestedAt = start ∧
          q.expiresAt.ns = start.ns + lifetime.ns) ∧
      (2 ^ 63 ≤ start.seconds + lifetime.seconds → result = .error .endOfTime) := by
  obtain ⟨n, hn⟩ := SecurityConfig.exists_lifetime_of_decode hconfig
  rw [hn]
  intro start lifetime result
  have hseconds : lifetime.seconds = n.toNat := Duration.seconds_ofSeconds n
  rw [hseconds]
  exact ⟨fun cause => result_issue_of_error, fun secret hsecret =>
    ⟨exists_issue_of_lt hsecret, result_issue_of_le hsecret⟩⟩

/-- Settings that differ from the standard ones in the lifetime of requests. -/
def lasting (n : UInt64) : SecurityConfig :=
  { SecurityConfig.standard with passwordResetLifetime := .ofSeconds n }

theorem decode_lasting_last_second :
    SecurityConfig.codec.decodeText "\x7b\"password_reset_lifetime\":9223372036854775807\x7d"
      = .ok (lasting 9223372036854775807) :=
  toOption_eq_some_iff.mp (by decide +kernel)

theorem decode_lasting_end :
    SecurityConfig.codec.decodeText "\x7b\"password_reset_lifetime\":9223372036854775808\x7d"
      = .ok (lasting 9223372036854775808) :=
  toOption_eq_some_iff.mp (by decide +kernel)

open ServiceOperation (outOfKeys)

theorem nonce_outOfKeys : (outOfKeys.nonce secretSize ()).1 = .ok (List.replicate 64 0) := rfl

/-- From the start of 1970, a request can last until the last second of time, and no longer. -/
theorem issue_by_settings_example :
    SecurityConfig.codec.decodeText "\x7b\"password_reset_lifetime\":9223372036854775807\x7d"
      = .ok (lasting 9223372036854775807) ∧
    (∃ q, ((issue ⟨42⟩ (.ofSeconds 9223372036854775807)).run outOfKeys ()).result = .ok q ∧
      q.accountId = ⟨42⟩ ∧ q.expiresAt.ns = (2 ^ 63 - 1) * 1000000000) ∧
    SecurityConfig.codec.decodeText "\x7b\"password_reset_lifetime\":9223372036854775808\x7d"
      = .ok (lasting 9223372036854775808) ∧
    ((issue ⟨42⟩ (.ofSeconds 9223372036854775808)).run outOfKeys ()).result =
      .error .endOfTime := by
  obtain ⟨-, hlast⟩ := issue_by_settings decode_lasting_last_second outOfKeys () ⟨42⟩
  obtain ⟨-, hend⟩ := issue_by_settings decode_lasting_end outOfKeys () ⟨42⟩
  obtain ⟨q, hq, haccount, -, -, hexpires⟩ := (hlast _ nonce_outOfKeys).1 (by decide)
  exact ⟨decode_lasting_last_second, ⟨q, hq, haccount, hexpires⟩, decode_lasting_end,
    (hend _ nonce_outOfKeys).2 (by decide)⟩

/-- Issuing a request does not always come to a request or an error: with settings that ask for a
    lifetime of 2 ^ 63 seconds it is abandoned. -/
theorem not_issue_by_settings_ends :
    ¬ ∀ (document : Bytes) (config : SecurityConfig),
      SecurityConfig.codec.decode document = .ok config →
      ∀ {σ : Type} (r : Responder σ) (s : σ) (account : Snowflake),
        let result := ((issue account config.passwordResetLifetime).run r s).result
        ((∃ q, result = .ok q) ∨ ∃ e, result = .error (.error e)) ∧
        ∀ q, result = .ok q →
          q.expiresAt.ns = q.requestedAt.ns + config.passwordResetLifetime.ns := by
  intro hends
  obtain ⟨hcomes, -⟩ := hends _ _ decode_lasting_end outOfKeys () ⟨42⟩
  have hend : ((issue ⟨42⟩ (.ofSeconds 9223372036854775808)).run outOfKeys ()).result =
      .error .endOfTime := result_issue_of_le nonce_outOfKeys (by decide)
  rcases hcomes with ⟨q, hq⟩ | ⟨e, he⟩
  · cases hend.symm.trans hq
  · cases hend.symm.trans he

end ResetRequest

end ChatKeys
