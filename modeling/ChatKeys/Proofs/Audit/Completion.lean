/-
  ChatKeys.Proofs.Audit.Completion

  What the operations that call the service report of how they came out.

  Next to its result a run has the events that were reported (`Outcome.events`) and what
  it was told by the clock and the random source (`Dialogue.readings`).  `Dialogue.Reports`
  relates the three for a dialogue and every responder, and forbids that a failed run
  reports a completion.  It is put together along the steps of a dialogue:

    * `Reports.silent_bind` — after steps that report nothing and read nothing;
    * `Reports.now_bind`, `Reports.freshSnowflake_bind` — after the clock was read;
    * `Reports.completed` — the end, where the completion is reported.

  `ServiceOperation.events_match_outcomes` is the result for all operations: a value comes
  with the one completion event, a failure with none, and nothing but names, identifiers
  and the cost of deriving keys has a say in what is reported.
-/
import ChatKeys.Proofs.Service.Failures

namespace ChatKeys

/-- Whether an event says that an operation has been carried out. -/
def Event.isCompletion : Event → Bool
  | accountCreated .. | passwordReset .. | staffAppointed | roomCreated .. | managerAppointed ..
  | managerKeyRenewed .. | messageKeyRenewed .. | resetRequested .. => true
  | _ => false

/-- The events among some that say so. -/
def completions (events : List Event) : List Event :=
  events.filter Event.isCompletion

/-- An answer of the clock or of the random source. -/
inductive Reading where
  | time (t : Time)
  | word (w : UInt64)
deriving DecidableEq, Repr

/-- The identifier made of a time and the random word that was read right after it; zero
    where none was made. -/
def freshId : List Reading → Snowflake
  | .time t :: .word w :: _ => .ofTime t w
  | _ :: rest => freshId rest
  | [] => ⟨0⟩

namespace Dialogue

variable {σ α β γ : Type} {d : Dialogue α} {f : α → Dialogue β}
  {R : List Reading → β → List Event → Prop}

/-- The answers of clock and random source while some responder answers, in order. -/
def readings (r : Responder σ) : Dialogue α → σ → List Reading
  | finish _, _ => []
  | askNonce length next, s => let (reply, s) := r.nonce length s; readings r (next reply) s
  | askKey type context next, s =>
    let (reply, s) := r.generate type context s
    readings r (next reply) s
  | askUnwrap key next, s => let (reply, s) := r.unwrap key s; readings r (next reply) s
  | askTime next, s => let (t, s) := r.time s; .time t :: readings r (next t) s
  | askWord next, s => let (w, s) := r.word s; .word w :: readings r (next w) s
  | report _ rest, s => readings r rest s

theorem readings_bind {r : Responder σ} {s : σ} {a : α} (h : (d.run r s).result = .ok a) :
    (d >>= f).readings r s = d.readings r s ++ (f a).readings r (d.run r s).state := by
  show (d.bind f).readings r s = _
  induction d generalizing s with
  | finish result =>
    cases h
    rfl
  | askNonce n next ih => exact ih _ h
  | askKey t c next ih => exact ih _ h
  | askUnwrap k next ih => exact ih _ h
  | askTime next ih => exact congrArg _ (ih _ h)
  | askWord next ih => exact congrArg _ (ih _ h)
  | report e rest ih => exact ih h

/-! ## What is reported -/

/-- Whoever answers: where the dialogue comes to a value, readings, value and events are
    in the relation, and where it fails it has reported no completion. -/
structure Reports (d : Dialogue α) (R : List Reading → α → List Event → Prop) : Prop where
  of_ok : ∀ {σ : Type} (r : Responder σ) (s : σ) (a : α), (d.run r s).result = .ok a →
    R (d.readings r s) a (d.run r s).events
  of_error : ∀ {σ : Type} (r : Responder σ) (s : σ) (e : Failure), (d.run r s).result = .error e →
    completions (d.run r s).events = []

/-- On the way to a value nothing is reported and nothing read. -/
abbrev Silent (d : Dialogue α) : Prop :=
  d.Reports fun readings _ events => readings = [] ∧ events = []

namespace Reports

/-- Behind a silent part the dialogue reports what the rest does. -/
theorem silent_bind (hd : d.Silent) (hf : ∀ a, (f a).Reports R) : (d >>= f).Reports R := by
  constructor
  · intro σ r s b h
    obtain ⟨a, ha, hb⟩ := run_bind_eq_ok_iff.mp h
    obtain ⟨hreadings, hevents⟩ := hd.of_ok r s a ha
    have hrest := (hf a).of_ok r _ b hb
    have hrun := run_bind_ok r d f s ha
    rw [hevents, List.nil_append] at hrun
    rw [readings_bind ha, hreadings, List.nil_append]
    show R _ b ((d.bind f).run r s).events
    rw [hrun]
    exact hrest
  · intro σ r s e h
    change ((d.bind f).run r s).result = _ at h
    show completions ((d.bind f).run r s).events = []
    cases hresult : (d.run r s).result with
    | error e' =>
      rw [run_bind_error r d f s hresult]
      exact hd.of_error r s e' hresult
    | ok a =>
      have hrun := run_bind_ok r d f s hresult
      rw [(hd.of_ok r s a hresult).2, List.nil_append] at hrun
      rw [hrun] at h ⊢
      exact (hf a).of_error r _ e h

theorem bind_assoc {g : β → Dialogue γ} {R : List Reading → γ → List Event → Prop}
    (h : (d >>= fun a => f a >>= g).Reports R) : ((d >>= f) >>= g).Reports R := by
  have hassoc : ((d >>= f) >>= g) = d >>= fun a => f a >>= g := Dialogue.bind_assoc d f g
  rwa [hassoc]

/-! ### The clock -/

theorem now_bind {f : Time → Dialogue β}
    (hf : ∀ t, (f t).Reports fun later => R (.time t :: later)) : (now >>= f).Reports R :=
  ⟨fun r s => (hf (r.time s).1).of_ok r (r.time s).2,
    fun r s => (hf (r.time s).1).of_error r (r.time s).2⟩

theorem freshSnowflake_bind {f : Snowflake → Dialogue β}
    (hf : ∀ t w, (f (.ofTime t w)).Reports fun later => R (.time t :: .word w :: later)) :
    (freshSnowflake >>= f).Reports R :=
  ⟨fun r s => (hf (r.time s).1 (r.word (r.time s).2).1).of_ok r (r.word (r.time s).2).2,
    fun r s => (hf (r.time s).1 (r.word (r.time s).2).1).of_error r (r.word (r.time s).2).2⟩

/-! ### Ends -/

theorem pure {R : List Reading → α → List Event → Prop} {a : α} (h : R [] a []) :
    (Pure.pure a : Dialogue α).Reports R := by
  constructor
  · rintro σ r s _ ⟨⟩
    exact h
  · rintro σ r s e ⟨⟩

theorem fail {R : List Reading → α → List Event → Prop} (e : Failure) :
    (Dialogue.fail e : Dialogue α).Reports R := by
  constructor
  · rintro σ r s a ⟨⟩
  · rintro σ r s _ ⟨⟩
    rfl

/-- The end of an operation that reports its completion. -/
theorem completed {R : List Reading → α → List Event → Prop} {a : α} {event : Event}
    (h : R [] a [event]) : (note event >>= fun _ => Pure.pure a).Reports R := by
  constructor
  · rintro σ r s _ ⟨⟩
    exact h
  · rintro σ r s e ⟨⟩

/-- The end of an operation that reports why it is refused. -/
theorem refused {R : List Reading → α → List Event → Prop} {event : Event} {e : Error}
    (h : event.isCompletion = false) : (note event >>= fun _ => refuse e).Reports R := by
  constructor
  · rintro σ r s a ⟨⟩
  · rintro σ r s _ ⟨⟩
    exact List.filter_cons_of_neg (by simp [h])

end Reports

/-! ## Silent steps -/

namespace Silent

/-- A reply of the service goes unreported unless it is a failure, and that is no
    completion. -/
theorem settle (step : String) (reply : Except KmsError α) :
    (Dialogue.settle step reply).Silent := by
  constructor
  · intro σ r s a h
    cases reply with
    | ok b => exact ⟨rfl, rfl⟩
    | error cause =>
      rw [run_settle_error] at h
      cases h
  · intro σ r s e h
    cases reply with
    | ok b => rfl
    | error cause =>
      rw [run_settle_error]
      cases cause <;> rfl

theorem nonce (length : Nat) (step : String) : (Dialogue.nonce length step).Silent :=
  ⟨fun r s => (settle step (r.nonce length s).1).of_ok r (r.nonce length s).2,
    fun r s => (settle step (r.nonce length s).1).of_error r (r.nonce length s).2⟩

theorem generate (scope value : String) : (Dialogue.generate scope value).Silent :=
  ⟨fun r s => (settle generateStep (r.generate .xchacha20poly1305 ⟨scope, value⟩ s).1).of_ok r
      (r.generate .xchacha20poly1305 ⟨scope, value⟩ s).2,
    fun r s => (settle generateStep (r.generate .xchacha20poly1305 ⟨scope, value⟩ s).1).of_error r
      (r.generate .xchacha20poly1305 ⟨scope, value⟩ s).2⟩

theorem unwrap (key : Key) : (Dialogue.unwrap key).Silent :=
  ⟨fun r s => (settle unwrapStep (r.unwrap key s).1).of_ok r (r.unwrap key s).2,
    fun r s => (settle unwrapStep (r.unwrap key s).1).of_error r (r.unwrap key s).2⟩

theorem cut (size : Nat) (bytes : Bytes) : (Dialogue.cut size bytes).Silent := by
  rw [Dialogue.cut]
  split
  · exact .fail _
  · exact .pure ⟨rfl, rfl⟩

theorem liftM (x : Except KeyError α) : (MonadLiftT.monadLift x : Dialogue α).Silent := by
  cases x with
  | ok a => exact .pure ⟨rfl, rfl⟩
  | error e => exact .fail _

/-- An answer that asks nobody is silent if it reports nothing but refusals. -/
theorem ofLogged {x : Logged α} {refusal : Event} (hrefusal : refusal.isCompletion = false)
    (hok : ∀ a, x.result = .ok a → x.events = [])
    (herror : ∀ event ∈ x.events, event = refusal) : (Dialogue.ofLogged x).Silent := by
  have hrun : ∀ {σ : Type} (r : Responder σ) (s : σ), (Dialogue.ofLogged x).readings r s = [] ∧
      (Dialogue.ofLogged x).run r s =
        ⟨x.result.mapError .error, x.events, s⟩ := by
    intro σ r s
    obtain ⟨events, result⟩ := x
    show (events.foldr report (ofExcept result)).readings r s = [] ∧
      (events.foldr report (ofExcept result)).run r s = _
    clear hok herror
    induction events with
    | nil => cases result <;> exact ⟨rfl, rfl⟩
    | cons event events ih =>
      refine ⟨ih.1, ?_⟩
      rw [List.foldr_cons, run, ih.2]
      rfl
  constructor
  · intro σ r s a h
    obtain ⟨hreadings, hrun⟩ := hrun r s
    rw [hrun] at h ⊢
    exact ⟨hreadings, hok a (mapError_eq_ok_iff.mp h)⟩
  · intro σ r s e h
    rw [(hrun r s).2]
    refine List.filter_eq_nil_iff.mpr fun event hevent => ?_
    rw [herror event hevent, hrefusal]
    exact Bool.false_ne_true

end Silent

end Dialogue

open Dialogue (Reports Silent)

/-! ## The operations on accounts -/

namespace Account

variable {R : List Reading → Account × Key → List Event → Prop}

theorem reports_create (password : String) (kdf : KdfParams)
    (hR : ∀ v, R [] v [.accountCreated kdf.rounds]) : (create password kdf).Reports R := by
  refine Reports.silent_bind (.nonce _ _) fun random => ?_
  refine Reports.silent_bind (.cut _ random) fun parts => ?_
  refine Reports.silent_bind (.generate _ _) fun systemKey => ?_
  refine Reports.silent_bind (.unwrap systemKey) fun kek => ?_
  refine Reports.silent_bind (.liftM _) fun pair => ?_
  refine Reports.silent_bind (.liftM _) fun keyPair => ?_
  refine Reports.silent_bind (.liftM _) fun userKey => ?_
  refine Reports.silent_bind (.liftM _) fun mac => ?_
  exact .completed (hR _)

theorem reports_resetPassword (a : Account) (id : Snowflake) (authorization : ResetAuthorization)
    (password : String) (hR : ∀ v, R [] v [.passwordReset id]) :
    (a.resetPassword id authorization password).Reports R := by
  rw [resetPassword]
  split
  · exact .refused rfl
  · refine Reports.silent_bind (.unwrap _) fun kek => ?_
    refine Reports.silent_bind (.liftM _) fun account => ?_
    exact .completed (hR _)

theorem silent_grant (a : Account) (k : Key) : (a.grant k).Silent := by
  refine Reports.silent_bind (.unwrap _) fun kek => ?_
  exact Reports.silent_bind (.nonce _ _) fun iv => Silent.liftM _

theorem reports_appointStaff (a : Account) (credential : Key)
    {R : List Reading → Account → List Event → Prop} (hR : ∀ v, R [] v [.staffAppointed]) :
    (a.appointStaff credential).Reports R :=
  Reports.silent_bind (a.silent_grant credential) fun _ => .completed (hR _)

end Account

/-! ## The operations on message keys and rooms -/

namespace MessageKey

/-- What is behind a new message key is told the key's identifier. -/
theorem reports_issue_bind (room : String) {β : Type} {f : MessageKey → Dialogue β}
    {R : List Reading → β → List Event → Prop}
    (hf : ∀ t w t' nonce key, (f ⟨⟨(Snowflake.ofTime t w).text⟩, t', nonce, key⟩).Reports
      fun later => R (.time t :: .word w :: .time t' :: later)) :
    (issue room >>= f).Reports R := by
  refine Reports.bind_assoc (Reports.silent_bind (.nonce _ _) fun nonce => ?_)
  refine Reports.bind_assoc (Reports.silent_bind (.generate _ _) fun key => ?_)
  refine Reports.bind_assoc (Reports.freshSnowflake_bind fun t w => ?_)
  exact Reports.bind_assoc (Reports.now_bind fun t' => hf t w t' nonce key)

theorem reports_issue (room : String) {R : List Reading → MessageKey → List Event → Prop}
    (hR : ∀ t w t' m, R [.time t, .word w, .time t'] m []) : (issue room).Reports R := by
  have hissue := reports_issue_bind room fun t w t' nonce key => Reports.pure (hR t w t' _)
  rwa [show (issue room >>= Pure.pure) = issue room from Dialogue.bind_pure _] at hissue

theorem silent_grantTo (m : MessageKey) (a : Account) : (m.grantTo a).Silent :=
  Reports.silent_bind (.unwrap m.key) a.silent_grant

theorem silent_grantToPasscode (m : MessageKey) (passcode : String) (kdf : KdfParams) :
    (m.grantToPasscode passcode kdf).Silent := by
  refine Reports.silent_bind (.unwrap m.key) fun key => ?_
  exact Reports.silent_bind (.nonce _ _) fun iv => Silent.liftM _

end MessageKey

namespace Room

variable {R : List Reading → Room → List Event → Prop}

theorem reports_create (name : String) (hR : ∀ v, R [] v [.roomCreated name]) :
    (create name).Reports R := by
  refine Reports.silent_bind (.nonce _ _) fun random => ?_
  refine Reports.silent_bind (.cut _ random) fun parts => ?_
  refine Reports.silent_bind (.cut _ parts.2) fun rest => ?_
  refine Reports.silent_bind (.generate _ _) fun keyEncryptingKey => ?_
  refine Reports.silent_bind (.unwrap keyEncryptingKey) fun managerKey => ?_
  refine Reports.silent_bind (.liftM _) fun pair => ?_
  refine Reports.silent_bind (.liftM _) fun keyPair => ?_
  refine Reports.silent_bind (.liftM _) fun mac => ?_
  exact .completed (hR _)

/-- That the room is not opened is reported, but it is no completion. -/
theorem silent_unlockThroughService (r : Room) : r.unlockThroughService.Silent := by
  refine Reports.silent_bind (.unwrap _) fun managerKey => ?_
  refine Silent.ofLogged (rfl : (Event.roomUnlockRefused r.name).isCompletion = false) ?_ ?_
  · intro pair h
    rw [unlock_eq_checked] at h ⊢
    exact Key.events_checked_of_ok h
  · intro event hevent
    rw [unlock_eq_checked] at hevent
    exact Key.eq_of_mem_events_checked hevent

theorem reports_appointManager (r : Room) (a : Account)
    {R : List Reading → Capability → List Event → Prop} (hR : ∀ v, R [] v [.managerAppointed r.name]) :
    (r.appointManager a).Reports R := by
  refine Reports.silent_bind (.unwrap _) fun managerKey => ?_
  refine Reports.silent_bind (a.silent_grant managerKey) fun c => ?_
  exact .completed (hR _)

theorem reports_renewManagerKey (r : Room) (hR : ∀ v, R [] v [.managerKeyRenewed r.name]) :
    r.renewManagerKey.Reports R := by
  refine Reports.silent_bind r.silent_unlockThroughService fun pair => ?_
  refine Reports.silent_bind (.nonce _ _) fun iv => ?_
  refine Reports.silent_bind (.generate _ _) fun keyEncryptingKey => ?_
  refine Reports.silent_bind (.unwrap keyEncryptingKey) fun managerKey => ?_
  refine Reports.silent_bind (.liftM _) fun keyPair => ?_
  refine Reports.silent_bind (.liftM _) fun mac => ?_
  exact .completed (hR _)

theorem reports_renewMessageKey (r : Room)
    (hR : ∀ t w t' v, R [.time t, .word w, .time t'] v
      [.messageKeyRenewed r.name (Snowflake.ofTime t w).text]) : r.renewMessageKey.Reports R :=
  MessageKey.reports_issue_bind r.name fun t w t' _ _ => .completed (hR t w t' _)

end Room

/-! ## Resets -/

theorem ResetRequest.reports_issue (account : Snowflake) (lifetime : Duration)
    {R : List Reading → ResetRequest → List Event → Prop}
    (hR : ∀ t t' w v, R [.time t, .time t', .word w] v
      [.resetRequested (.ofTime t' w) account]) : (issue account lifetime).Reports R := by
  refine Reports.silent_bind (.nonce _ _) fun key => ?_
  refine Reports.now_bind fun requestedAt => ?_
  refine Reports.freshSnowflake_bind fun t w => ?_
  split
  · exact .fail _
  · exact .completed (hR _ _ _ _)

/-! ## All operations -/

namespace ServiceOperation

/-- The event that reports that an operation has been carried out, given the identifier that
    was made for it. Operations that are parts of others have none. -/
def completion : ServiceOperation → (fresh : Snowflake) → List Event
  | createAccount _ kdf, _ => [.accountCreated kdf.rounds]
  | resetPassword _ id _ _, _ => [.passwordReset id]
  | appointStaff .., _ => [.staffAppointed]
  | createRoom name, _ => [.roomCreated name]
  | appointManager r _, _ => [.managerAppointed r.name]
  | renewManagerKey r, _ => [.managerKeyRenewed r.name]
  | renewMessageKey r, fresh => [.messageKeyRenewed r.name fresh.text]
  | issueReset account _, fresh => [.resetRequested fresh account]
  | _, _ => []

/-- A value comes with the completion and no other event, and a failure without any. -/
theorem reports (op : ServiceOperation) :
    op.dialogue.Reports fun readings _ events => events = op.completion (freshId readings) := by
  -- A silent operation has no completion.
  have hsilent : ∀ {α : Type} {d : Dialogue α}, d.Silent → d.Reports fun _ _ events => events = [] :=
    fun h => ⟨fun r s a ha => (h.of_ok r s a ha).2, h.of_error⟩
  cases op with
  | createAccount password kdf => exact Account.reports_create password kdf fun _ => rfl
  | resetPassword a id authorization password =>
    exact a.reports_resetPassword id authorization password fun _ => rfl
  | grant a k => exact hsilent (a.silent_grant k)
  | appointStaff a credential => exact a.reports_appointStaff credential fun _ => rfl
  | createRoom name => exact Room.reports_create name fun _ => rfl
  | managerKey r => exact hsilent (.unwrap _)
  | unlockRoom r => exact hsilent r.silent_unlockThroughService
  | appointManager r a => exact r.reports_appointManager a fun _ => rfl
  | renewManagerKey r => exact r.reports_renewManagerKey fun _ => rfl
  | renewMessageKey r => exact r.reports_renewMessageKey fun _ _ _ _ => rfl
  | issueMessageKey room => exact MessageKey.reports_issue room fun _ _ _ _ => rfl
  | unlockMessageKey m => exact hsilent (.unwrap _)
  | grantMessageKey m a => exact hsilent (m.silent_grantTo a)
  | grantToPasscode m passcode kdf => exact hsilent (m.silent_grantToPasscode passcode kdf)
  | issueReset account lifetime => exact ResetRequest.reports_issue account lifetime fun _ _ _ _ => rfl

theorem completions_completion (op : ServiceOperation) (fresh : Snowflake) :
    completions (op.completion fresh) = op.completion fresh := by
  cases op <;> rfl

/-- The same operation on two inputs with the same names, identifiers and cost of deriving
    keys. Passwords, passcodes, keys, and all else that accounts, rooms and message keys
    hold may differ. -/
inductive DiffersInSecrets : ServiceOperation → ServiceOperation → Prop
  | createAccount (password password' : String) (kdf : KdfParams) :
      DiffersInSecrets (.createAccount password kdf) (.createAccount password' kdf)
  | resetPassword (a a' : Account) (id : Snowflake) (authorization : ResetAuthorization)
      (password password' : String) :
      DiffersInSecrets (.resetPassword a id authorization password)
        (.resetPassword a' id authorization password')
  | grant (a a' : Account) (k k' : Key) : DiffersInSecrets (.grant a k) (.grant a' k')
  | appointStaff (a a' : Account) (credential credential' : Key) :
      DiffersInSecrets (.appointStaff a credential) (.appointStaff a' credential')
  | createRoom (name : String) : DiffersInSecrets (.createRoom name) (.createRoom name)
  | managerKey {r r' : Room} (hname : r.name = r'.name) :
      DiffersInSecrets (.managerKey r) (.managerKey r')
  | unlockRoom {r r' : Room} (hname : r.name = r'.name) :
      DiffersInSecrets (.unlockRoom r) (.unlockRoom r')
  | appointManager {r r' : Room} (hname : r.name = r'.name) (a a' : Account) :
      DiffersInSecrets (.appointManager r a) (.appointManager r' a')
  | renewManagerKey {r r' : Room} (hname : r.name = r'.name) :
      DiffersInSecrets (.renewManagerKey r) (.renewManagerKey r')
  | renewMessageKey {r r' : Room} (hname : r.name = r'.name) :
      DiffersInSecrets (.renewMessageKey r) (.renewMessageKey r')
  | issueMessageKey (room : String) :
      DiffersInSecrets (.issueMessageKey room) (.issueMessageKey room)
  | unlockMessageKey {m m' : MessageKey} (hid : m.id = m'.id) :
      DiffersInSecrets (.unlockMessageKey m) (.unlockMessageKey m')
  | grantMessageKey {m m' : MessageKey} (hid : m.id = m'.id) (a a' : Account) :
      DiffersInSecrets (.grantMessageKey m a) (.grantMessageKey m' a')
  | grantToPasscode {m m' : MessageKey} (hid : m.id = m'.id) (passcode passcode' : String)
      (kdf : KdfParams) :
      DiffersInSecrets (.grantToPasscode m passcode kdf) (.grantToPasscode m' passcode' kdf)
  | issueReset (account : Snowflake) (lifetime : Duration) :
      DiffersInSecrets (.issueReset account lifetime) (.issueReset account lifetime)

theorem DiffersInSecrets.completion_eq {op op' : ServiceOperation} (h : op.DiffersInSecrets op')
    (fresh : Snowflake) : op.completion fresh = op'.completion fresh := by
  cases h with
  | appointManager hname a a' => simp only [completion, hname]
  | renewManagerKey hname => simp only [completion, hname]
  | renewMessageKey hname => simp only [completion, hname]
  | _ => rfl

/-- Whatever is asked and whoever answers: an operation that gives a value has reported its
    completion, once and as its only event, and one that fails has reported no completion.
    Two runs that give a value report the same if they differ in secrets alone and were
    told the same by the clock and the random source. -/
theorem events_match_outcomes (op : ServiceOperation) {σ : Type} (r : Responder σ) (s : σ) :
    (∀ v, (op.dialogue.run r s).result = .ok v →
      (op.dialogue.run r s).events = op.completion (freshId (op.dialogue.readings r s)) ∧
      completions (op.dialogue.run r s).events = (op.dialogue.run r s).events) ∧
    (∀ e, (op.dialogue.run r s).result = .error e →
      completions (op.dialogue.run r s).events = []) ∧
    ∀ (op' : ServiceOperation) {σ' : Type} (r' : Responder σ') (s' : σ') v v',
      op.DiffersInSecrets op' → op.dialogue.readings r s = op'.dialogue.readings r' s' →
      (op.dialogue.run r s).result = .ok v → (op'.dialogue.run r' s').result = .ok v' →
      (op.dialogue.run r s).events = (op'.dialogue.run r' s').events := by
  refine ⟨fun v hv => ?_, op.reports.of_error r s, ?_⟩
  · have hevents := op.reports.of_ok r s v hv
    rw [hevents]
    exact ⟨rfl, completions_completion op _⟩
  · intro op' σ' r' s' v v' hop hreadings hv hv'
    rw [op.reports.of_ok r s v hv, op'.reports.of_ok r' s' v' hv', hreadings,
      hop.completion_eq]

/-- A service that sends one byte as often as it is asked for, and else nothing. -/
def repeating (byte : UInt8) : Responder Unit where
  nonce length s := (.ok (List.replicate length byte), s)
  generate _ _ s := (.error .accessDenied, s)
  unwrap _ s := (.error .accessDenied, s)
  time s := (.epoch, s)
  word s := (7, s)

/-- Two requests for the same account with different secret bytes are reported alike, and a
    room that the service makes no key for is not reported as new. -/
theorem events_match_outcomes_issueReset :
    let op := issueReset ⟨42⟩ (.ofSeconds 3600)
    (op.dialogue.run (repeating 1) ()).events = [.resetRequested (.ofTime .epoch 7) ⟨42⟩] ∧
      (op.dialogue.run (repeating 1) ()).events = (op.dialogue.run (repeating 2) ()).events ∧
      completions ((createRoom "lobby").dialogue.run (repeating 1) ()).events = [] := by
  intro op
  obtain ⟨hok, -, hsame⟩ := events_match_outcomes op (repeating 1) ()
  obtain ⟨-, hfail, -⟩ := events_match_outcomes (createRoom "lobby") (repeating 1) ()
  exact ⟨(hok _ rfl).1, hsame op (repeating 2) () _ _ (.issueReset _ _) rfl rfl rfl, hfail _ rfl⟩

end ServiceOperation

end ChatKeys
