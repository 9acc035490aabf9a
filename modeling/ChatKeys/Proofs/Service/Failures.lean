/-
  ChatKeys.Proofs.Service.Failures

  What a failing service does to the operations that call it.

  `ServiceOperation` lists them all, with what each is given, and `steps` says in which
  order each calls the service and under which name each failure is passed on.

    * `ServiceOperation.follows` — every operation makes its calls in its steps;
    * `ServiceOperation.failed_call_ends` — so with any service at all, the call that
      fails is the last one, and the operation passes its cause on as it is.
-/
import ChatKeys.Proofs.Room.Hierarchy
import ChatKeys.Proofs.Service.Calls

namespace ChatKeys

open Dialogue (Follows)

/-- An operation that calls the service, with what it is given. -/
inductive ServiceOperation where
  | createAccount (password : String) (kdf : KdfParams)
  | resetPassword (a : Account) (id : Snowflake) (authorization : ResetAuthorization)
      (password : String)
  | grant (a : Account) (k : Key)
  | appointStaff (a : Account) (credential : Key)
  | createRoom (name : String)
  | managerKey (r : Room)
  | unlockRoom (r : Room)
  | appointManager (r : Room) (a : Account)
  | renewManagerKey (r : Room)
  | renewMessageKey (r : Room)
  | issueMessageKey (room : String)
  | unlockMessageKey (m : MessageKey)
  | grantMessageKey (m : MessageKey) (a : Account)
  | grantToPasscode (m : MessageKey) (passcode : String) (kdf : KdfParams)
  | issueReset (account : Snowflake) (lifetime : Duration)

namespace ServiceOperation

/-- What an operation gives if it succeeds. -/
def Value : ServiceOperation → Type
  | createAccount .. | resetPassword .. => Account × Key
  | appointStaff .. => Account
  | createRoom .. | renewManagerKey .. | renewMessageKey .. => Room
  | managerKey .. | unlockMessageKey .. => Key
  | unlockRoom .. => KeyPair
  | issueMessageKey .. => MessageKey
  | grant .. | appointManager .. | grantMessageKey .. | grantToPasscode .. => Capability
  | issueReset .. => ResetRequest

def dialogue : (op : ServiceOperation) → Dialogue op.Value
  | createAccount password kdf => Account.create password kdf
  | resetPassword a id authorization password => a.resetPassword id authorization password
  | grant a k => a.grant k
  | appointStaff a credential => a.appointStaff credential
  | createRoom name => Room.create name
  | managerKey r => r.managerKey
  | unlockRoom r => r.unlockThroughService
  | appointManager r a => r.appointManager a
  | renewManagerKey r => r.renewManagerKey
  | renewMessageKey r => r.renewMessageKey
  | issueMessageKey room => MessageKey.issue room
  | unlockMessageKey m => m.unlock
  | grantMessageKey m a => m.grantTo a
  | grantToPasscode m passcode kdf => m.grantToPasscode passcode kdf
  | issueReset account lifetime => ResetRequest.issue account lifetime

/-! ## Steps -/

/-- Random bytes are asked for. -/
def drawing : CallStep := ⟨.nonce, "nonce generation"⟩

/-- A fresh key is asked for. -/
def making : CallStep := ⟨.generate, "key generation"⟩

/-- A key is unwrapped. -/
def opening : CallStep := ⟨.unwrap, "key decryption"⟩

/-- The steps in which an operation calls the service. -/
def steps : ServiceOperation → List CallStep
  | createAccount .. | createRoom .. => [drawing, making, opening]
  | resetPassword .. | managerKey .. | unlockRoom .. | unlockMessageKey .. => [opening]
  | grant .. | appointStaff .. | grantToPasscode .. => [opening, drawing]
  | appointManager .. | grantMessageKey .. => [opening, opening, drawing]
  | renewManagerKey .. => [opening, drawing, making, opening]
  | renewMessageKey .. | issueMessageKey .. => [drawing, making]
  | issueReset .. => [⟨.nonce, "reset key generation"⟩]

end ServiceOperation

/-! ## The operations on accounts -/

namespace Account

open ServiceOperation (drawing making opening)

theorem follows_create (password : String) (kdf : KdfParams) :
    (create password kdf).Follows [drawing, making, opening] := by
  refine Follows.bind (.askNonce _ _) fun random => ?_
  refine Follows.bind_silent (.cut _ random) fun parts => ?_
  refine Follows.bind (.askKey _ _) fun systemKey => ?_
  refine Follows.bind (.askUnwrap systemKey) fun kek => ?_
  refine Follows.bind_silent (.liftM _) fun pair => ?_
  refine Follows.bind_silent (.liftM _) fun keyPair => ?_
  refine Follows.bind_silent (.liftM _) fun userKey => ?_
  refine Follows.bind_silent (.liftM _) fun mac => ?_
  exact Follows.bind_silent (.note nofun) fun _ => .pure _

/-- The service is not called at all for an authorization of another account. -/
theorem follows_resetPassword (a : Account) (id : Snowflake) (authorization : ResetAuthorization)
    (password : String) :
    (a.resetPassword id authorization password).Follows [opening] := by
  rw [resetPassword]
  split
  · exact Follows.bind_silent (.note nofun) fun _ => .refusal _ _
  · refine Follows.bind (.askUnwrap _) fun kek => ?_
    refine Follows.bind_silent (.liftM _) fun account => ?_
    exact Follows.bind_silent (.note nofun) fun _ => .pure _

theorem follows_grant (a : Account) (k : Key) : (a.grant k).Follows [opening, drawing] := by
  refine Follows.bind (.askUnwrap _) fun kek => ?_
  exact Follows.bind (.askNonce _ _) fun iv => .liftM _

theorem follows_appointStaff (a : Account) (credential : Key) :
    (a.appointStaff credential).Follows [opening, drawing] := by
  refine Follows.bind (a.follows_grant credential) fun c => ?_
  exact Follows.bind_silent (.note nofun) fun _ => .pure _

end Account

/-! ## The operations on message keys and rooms -/

namespace MessageKey

open ServiceOperation (drawing making opening)

theorem follows_issue (room : String) : (issue room).Follows [drawing, making] := by
  refine Follows.bind (.askNonce _ _) fun nonce => ?_
  refine Follows.bind (.askKey _ _) fun key => ?_
  refine Follows.bind_silent .freshSnowflake fun id => ?_
  exact Follows.bind_silent .now fun issuedAt => .pure _

theorem follows_grantTo (m : MessageKey) (a : Account) :
    (m.grantTo a).Follows [opening, opening, drawing] :=
  Follows.bind (.askUnwrap m.key) a.follows_grant

theorem follows_grantToPasscode (m : MessageKey) (passcode : String) (kdf : KdfParams) :
    (m.grantToPasscode passcode kdf).Follows [opening, drawing] := by
  refine Follows.bind (.askUnwrap m.key) fun key => ?_
  exact Follows.bind (.askNonce _ _) fun iv => .liftM _

end MessageKey

namespace Room

open ServiceOperation (drawing making opening)

theorem follows_create (name : String) : (create name).Follows [drawing, making, opening] := by
  refine Follows.bind (.askNonce _ _) fun random => ?_
  refine Follows.bind_silent (.cut _ random) fun parts => ?_
  refine Follows.bind_silent (.cut _ parts.2) fun rest => ?_
  refine Follows.bind (.askKey _ _) fun keyEncryptingKey => ?_
  refine Follows.bind (.askUnwrap keyEncryptingKey) fun managerKey => ?_
  refine Follows.bind_silent (.liftM _) fun pair => ?_
  refine Follows.bind_silent (.liftM _) fun keyPair => ?_
  refine Follows.bind_silent (.liftM _) fun mac => ?_
  exact Follows.bind_silent (.note nofun) fun _ => .pure _

/-- A refusal to open the room is no warning. -/
theorem follows_unlockThroughService (r : Room) : r.unlockThroughService.Follows [opening] := by
  refine Follows.bind (.askUnwrap _) fun managerKey => Follows.ofLogged ?_
  intro event hevent
  rw [unlock_eq_checked] at hevent
  rw [Key.eq_of_mem_events_checked hevent]
  nofun

theorem follows_appointManager (r : Room) (a : Account) :
    (r.appointManager a).Follows [opening, opening, drawing] := by
  refine Follows.bind (.askUnwrap _) fun managerKey => ?_
  refine Follows.bind (a.follows_grant managerKey) fun c => ?_
  exact Follows.bind_silent (.note nofun) fun _ => .pure _

theorem follows_renewManagerKey (r : Room) :
    r.renewManagerKey.Follows [opening, drawing, making, opening] := by
  refine Follows.bind r.follows_unlockThroughService fun pair => ?_
  refine Follows.bind (.askNonce _ _) fun iv => ?_
  refine Follows.bind (.askKey _ _) fun keyEncryptingKey => ?_
  refine Follows.bind (.askUnwrap keyEncryptingKey) fun managerKey => ?_
  refine Follows.bind_silent (.liftM _) fun keyPair => ?_
  refine Follows.bind_silent (.liftM _) fun mac => ?_
  exact Follows.bind_silent (.note nofun) fun _ => .pure _

theorem follows_renewMessageKey (r : Room) : r.renewMessageKey.Follows [drawing, making] := by
  refine Follows.bind (MessageKey.follows_issue r.name) fun m => ?_
  exact Follows.bind_silent (.note nofun) fun _ => .pure _

end Room

/-! ## Resets -/

theorem ResetRequest.follows_issue (account : Snowflake) (lifetime : Duration) :
    (issue account lifetime).Follows [⟨.nonce, "reset key generation"⟩] := by
  refine Follows.bind (.askNonce _ _) fun key => ?_
  refine Follows.bind_silent .now fun requestedAt => ?_
  refine Follows.bind_silent .freshSnowflake fun id => ?_
  split
  · exact .refusal _ _
  · exact Follows.bind_silent (.note nofun) fun _ => .pure _

/-! ## All operations -/

namespace ServiceOperation

/-- Every operation makes its calls in its steps. -/
theorem follows (op : ServiceOperation) : op.dialogue.Follows op.steps := by
  cases op with
  | createAccount password kdf => exact Account.follows_create password kdf
  | resetPassword a id authorization password =>
    exact a.follows_resetPassword id authorization password
  | grant a k => exact a.follows_grant k
  | appointStaff a credential => exact a.follows_appointStaff credential
  | createRoom name => exact Room.follows_create name
  | managerKey r => exact .askUnwrap _
  | unlockRoom r => exact r.follows_unlockThroughService
  | appointManager r a => exact r.follows_appointManager a
  | renewManagerKey r => exact r.follows_renewManagerKey
  | renewMessageKey r => exact r.follows_renewMessageKey
  | issueMessageKey room => exact MessageKey.follows_issue room
  | unlockMessageKey m => exact .askUnwrap _
  | grantMessageKey m a => exact m.follows_grantTo a
  | grantToPasscode m passcode kdf => exact m.follows_grantToPasscode passcode kdf
  | issueReset account lifetime => exact ResetRequest.follows_issue account lifetime

/-- Only a service that cannot be reached makes for a failure that may pass. -/
theorem isTransient_ofKms (step : String) (cause : KmsError) :
    (Error.ofKms step cause).isTransient = true ↔ ∃ reason, cause = .unavailable reason := by
  cases cause with
  | accessDenied => simp [Error.ofKms, Error.isTransient]
  | unavailable reason => simp [Error.ofKms, Error.isTransient]
  | invalidRequest reason => simp [Error.ofKms, Error.isTransient]

/-- Whatever is asked and whoever answers: when a call of the service fails, no other
    is made and there is no value. A denial is passed on as a denial, without a
    warning. Any other cause is passed on as it is, with the name of the step that the
    call was made in, and there is one warning, of that step. The failure is said to be
    transient exactly if the service could not be reached. -/
theorem failed_call_ends (op : ServiceOperation) {σ : Type} (r : Responder σ) (s : σ) (n : Nat)
    (call : ServiceCall) (cause : KmsError) (hcall : (op.dialogue.calls r s)[n]? = some call)
    (hcause : call.failure? = some cause) :
    ∃ step e, op.steps[n]? = some step ∧ step.kind = call.kind ∧
      (op.dialogue.calls r s).length = n + 1 ∧
      (op.dialogue.run r s).result = .error (.error e) ∧
      (cause = .accessDenied → e = .accessDenied ∧ warnings (op.dialogue.run r s).events = []) ∧
      (cause ≠ .accessDenied → e = .serviceFailure step.name cause ∧
        warnings (op.dialogue.run r s).events = [.serviceCallFailed step.name cause]) ∧
      (e.isTransient = true ↔ ∃ reason, cause = .unavailable reason) := by
  obtain ⟨step, hstep, hkind, hlength, hresult, hwarnings⟩ := op.follows.failsAt hcall hcause
  refine ⟨step, _, hstep, hkind, hlength, hresult, ?_, ?_, isTransient_ofKms step.name cause⟩
  · rintro rfl
    exact ⟨rfl, hwarnings⟩
  · intro hne
    rw [hwarnings]
    cases cause with
    | accessDenied => exact absurd rfl hne
    | unavailable reason => exact ⟨rfl, rfl⟩
    | invalidRequest reason => exact ⟨rfl, rfl⟩

/-- A service that gives random bytes but cannot be reached for keys. -/
def outOfKeys : Responder Unit where
  nonce length s := (.ok (List.replicate length 0), s)
  generate _ _ s := (.error (.unavailable "timeout"), s)
  unwrap key s := (.ok key, s)
  time s := (.epoch, s)
  word s := (0, s)

theorem failed_call_ends_createRoom :
    let d := (createRoom "lobby").dialogue
    let failing := ServiceCall.generate .xchacha20poly1305 ⟨"room", "lobby"⟩
      (.error (.unavailable "timeout"))
    (d.calls outOfKeys ())[1]? = some failing ∧
      failing.failure? = some (.unavailable "timeout") ∧
      (d.calls outOfKeys ()).length = 2 ∧
      (d.run outOfKeys ()).result =
        .error (.error (.serviceFailure "key generation" (.unavailable "timeout"))) ∧
      warnings (d.run outOfKeys ()).events =
        [.serviceCallFailed "key generation" (.unavailable "timeout")] := by
  intro d failing
  have hcall : (d.calls outOfKeys ())[1]? = some failing := rfl
  have hcause : failing.failure? = some (.unavailable "timeout") := rfl
  obtain ⟨step, e, hstep, -, hlength, hresult, -, hother, -⟩ :=
    failed_call_ends (createRoom "lobby") outOfKeys () 1 failing _ hcall hcause
  obtain rfl : making = step := Option.some.inj hstep
  obtain ⟨rfl, hwarnings⟩ := hother nofun
  exact ⟨hcall, hcause, hlength, hresult, hwarnings⟩

end ServiceOperation

end ChatKeys
