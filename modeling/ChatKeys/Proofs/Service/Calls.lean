/-
  ChatKeys.Proofs.Service.Calls

  Which calls an operation makes of the service, and what becomes of one that fails.

    * `Dialogue.calls` — the calls that are made while some responder answers, in
      order, with the replies to them;
    * `Dialogue.Follows` — the dialogue makes its calls in given steps, one after the
      other, and gives up as soon as one of them fails;
    * `Follows.bind` and the lemmas beside it — what is put together from parts
      follows the steps of its parts;
    * `Follows.failsAt` — whatever the service is like, a failed call is the last one,
      and its cause is what the operation ends with.
-/
import ChatKeys.Service.Responder

namespace ChatKeys

/-- What the service is called for. -/
inductive CallKind where
  | nonce
  | generate
  | unwrap
deriving DecidableEq, Repr

/-- A step in which the service is called: what for, and the name under which a
    failure is passed on. -/
structure CallStep where
  kind : CallKind
  name : String
deriving DecidableEq, Repr

/-- A call that was made of the service, with the reply to it. -/
inductive ServiceCall where
  | nonce (length : Nat) (reply : Except KmsError Bytes)
  | generate (type : KeyType) (context : KeyContext) (reply : Except KmsError Key)
  | unwrap (key : Key) (reply : Except KmsError Key)

/-- The cause of a reply that is a failure. -/
def failureOf {α : Type} : Except KmsError α → Option KmsError
  | .ok _ => none
  | .error cause => some cause

namespace ServiceCall

def kind : ServiceCall → CallKind
  | nonce .. => .nonce
  | generate .. => .generate
  | unwrap .. => .unwrap

/-- The cause that a call failed for, if it failed. -/
def failure? : ServiceCall → Option KmsError
  | nonce _ reply => failureOf reply
  | generate _ _ reply => failureOf reply
  | unwrap _ reply => failureOf reply

end ServiceCall

/-- The events among some that warn of something. -/
def warnings (events : List Event) : List Event :=
  events.filter fun event => event.level = .warn

/-- What is reported of a failed call: nothing if it was a denial. -/
def failureReport (step : String) : KmsError → List Event
  | .accessDenied => []
  | cause => [.serviceCallFailed step cause]

namespace Dialogue

variable {σ α β : Type} {r : Responder σ} {s : σ}

/-- The calls that a dialogue makes of the service, with the replies to them. -/
def calls (r : Responder σ) : Dialogue α → σ → List ServiceCall
  | finish _, _ => []
  | askNonce length next, s =>
    let (reply, s) := r.nonce length s
    .nonce length reply :: calls r (next reply) s
  | askKey type context next, s =>
    let (reply, s) := r.generate type context s
    .generate type context reply :: calls r (next reply) s
  | askUnwrap key next, s =>
    let (reply, s) := r.unwrap key s
    .unwrap key reply :: calls r (next reply) s
  | askTime next, s => let (reply, s) := r.time s; calls r (next reply) s
  | askWord next, s => let (reply, s) := r.word s; calls r (next reply) s
  | report _ rest, s => calls r rest s

/-! ## Giving up -/

theorem settle_error_bind (step : String) (cause : KmsError) (f : α → Dialogue β) :
    (settle step (.error cause)).bind f = settle step (.error cause) := by
  cases cause <;> rfl

/-- After a failure the service is not called again. -/
theorem calls_settle_error (step : String) (cause : KmsError) :
    (settle step (.error cause) : Dialogue α).calls r s = [] := by
  cases cause <;> rfl

theorem run_settle_error (step : String) (cause : KmsError) :
    (settle step (.error cause) : Dialogue α).run r s =
      ⟨.error (.error (.ofKms step cause)), failureReport step cause, s⟩ := by
  cases cause <;> rfl

theorem warnings_failureReport (step : String) (cause : KmsError) :
    warnings (failureReport step cause) = failureReport step cause := by
  cases cause <;> rfl

/-! ## Steps -/

/-- The dialogue makes its calls in these steps, all of them if it comes to a value.
    It goes on with a reply that is no failure, and otherwise ends at once under the
    name of the step. Nothing else that it reports is a warning. -/
inductive Follows : List CallStep → Dialogue α → Prop
  | value (a : α) : Follows [] (finish (.ok a))
  | refusal (steps : List CallStep) (e : Failure) : Follows steps (finish (.error e))
  | nonce {steps : List CallStep} {name : String} {length : Nat}
      {next : Except KmsError Bytes → Dialogue α}
      (hfail : ∀ cause, next (.error cause) = settle name (.error cause))
      (hnext : ∀ b, Follows steps (next (.ok b))) :
      Follows (⟨.nonce, name⟩ :: steps) (askNonce length next)
  | generate {steps : List CallStep} {name : String} {type : KeyType} {context : KeyContext}
      {next : Except KmsError Key → Dialogue α}
      (hfail : ∀ cause, next (.error cause) = settle name (.error cause))
      (hnext : ∀ k, Follows steps (next (.ok k))) :
      Follows (⟨.generate, name⟩ :: steps) (askKey type context next)
  | unwrap {steps : List CallStep} {name : String} {key : Key}
      {next : Except KmsError Key → Dialogue α}
      (hfail : ∀ cause, next (.error cause) = settle name (.error cause))
      (hnext : ∀ k, Follows steps (next (.ok k))) :
      Follows (⟨.unwrap, name⟩ :: steps) (askUnwrap key next)
  | time {steps : List CallStep} {next : Time → Dialogue α}
      (hnext : ∀ t, Follows steps (next t)) : Follows steps (askTime next)
  | word {steps : List CallStep} {next : UInt64 → Dialogue α}
      (hnext : ∀ w, Follows steps (next w)) : Follows steps (askWord next)
  | report {steps : List CallStep} {event : Event} {rest : Dialogue α}
      (hevent : event.level ≠ .warn) (hrest : Follows steps rest) :
      Follows steps (report event rest)

namespace Follows

variable {steps later : List CallStep} {d : Dialogue α} {f : α → Dialogue β}

/-- Two dialogues in a row follow the steps of both in a row. -/
theorem bind (hd : d.Follows steps) (hf : ∀ a, (f a).Follows later) :
    (d >>= f).Follows (steps ++ later) := by
  show (d.bind f).Follows (steps ++ later)
  -- A failed step of the first dialogue ends the whole in the same way.
  have hfails : ∀ {γ : Type} {name : String} {next : Except KmsError γ → Dialogue α},
      (∀ cause, next (.error cause) = settle name (.error cause)) →
      ∀ cause, (next (.error cause)).bind f = settle name (.error cause) := by
    intro γ name next hfail cause
    rw [hfail, settle_error_bind]
  induction hd with
  | value a => exact hf a
  | refusal steps e => exact .refusal _ e
  | nonce hfail _ ih => exact .nonce (hfails hfail) ih
  | generate hfail _ ih => exact .generate (hfails hfail) ih
  | unwrap hfail _ ih => exact .unwrap (hfails hfail) ih
  | time _ ih => exact .time ih
  | word _ ih => exact .word ih
  | report hevent _ ih => exact .report hevent ih

/-- What follows a part without calls follows the steps of the whole. -/
theorem bind_silent (hd : d.Follows []) (hf : ∀ a, (f a).Follows later) :
    (d >>= f).Follows later :=
  hd.bind hf

theorem pure (a : α) : (Pure.pure a : Dialogue α).Follows [] := .value a

theorem note {event : Event} (h : event.level ≠ .warn) : (Dialogue.note event).Follows [] :=
  .report h (.value ())

theorem ofExcept (x : Except Error α) : (Dialogue.ofExcept x).Follows [] := by
  cases x with
  | ok a => exact .value a
  | error e => exact .refusal _ _

theorem liftM (x : Except KeyError α) : (MonadLiftT.monadLift x : Dialogue α).Follows [] := by
  cases x with
  | ok a => exact .value a
  | error e => exact .refusal _ _

/-- An answer that asks nobody makes no calls. -/
theorem ofLogged {x : Logged α} (h : ∀ event ∈ x.events, event.level ≠ .warn) :
    (Dialogue.ofLogged x).Follows [] := by
  obtain ⟨events, result⟩ := x
  show (events.foldr Dialogue.report (Dialogue.ofExcept result)).Follows []
  induction events with
  | nil => exact ofExcept result
  | cons event events ih =>
    obtain ⟨hevent, hrest⟩ := List.forall_mem_cons.mp h
    exact .report hevent (ih hrest)

theorem cut (size : Nat) (bytes : Bytes) : (Dialogue.cut size bytes).Follows [] := by
  rw [Dialogue.cut]
  split
  · exact .refusal _ _
  · exact .value _

/-! ### Single calls -/

theorem askNonce (length : Nat) (step : String) :
    (Dialogue.nonce length step).Follows [⟨.nonce, step⟩] :=
  .nonce (fun _ => rfl) fun b => .value b

theorem askKey (scope value : String) :
    (Dialogue.generate scope value).Follows [⟨.generate, generateStep⟩] :=
  .generate (fun _ => rfl) fun k => .value k

theorem askUnwrap (key : Key) : (Dialogue.unwrap key).Follows [⟨.unwrap, unwrapStep⟩] :=
  .unwrap (fun _ => rfl) fun k => .value k

theorem now : Dialogue.now.Follows [] := .time fun t => .value t

theorem freshSnowflake : Dialogue.freshSnowflake.Follows [] :=
  .time fun _ => .word fun _ => .value _

end Follows

/-! ## A call that fails -/

/-- A dialogue whose call number `n`, of some kind, failed: the call was one of the
    steps, no other was made after it, and the dialogue ended with the cause of the
    failure under the name of the step. -/
def FailsAt (steps : List CallStep) (n : Nat) (kind : CallKind) (cause : KmsError)
    (calls : List ServiceCall) (o : Outcome σ α) : Prop :=
  ∃ step, steps[n]? = some step ∧ step.kind = kind ∧ calls.length = n + 1 ∧
    o.result = .error (.error (.ofKms step.name cause)) ∧
    warnings o.events = failureReport step.name cause

/-- The reply to a call is a failure, and ends the dialogue; or the failed call is a
    later one. -/
theorem failsAt_of_reply {γ : Type} {reply : Except KmsError γ}
    {next : Except KmsError γ → Dialogue α} {step : CallStep} {steps : List CallStep}
    {first call : ServiceCall} {n : Nat} {cause : KmsError}
    (hfirst : first.kind = step.kind) (hreply : first.failure? = failureOf reply)
    (hfail : ∀ cause, next (.error cause) = settle step.name (.error cause))
    (hnext : ∀ c {m : Nat}, ((next (.ok c)).calls r s)[m]? = some call →
      FailsAt steps m call.kind cause ((next (.ok c)).calls r s) ((next (.ok c)).run r s))
    (hcall : (first :: (next reply).calls r s)[n]? = some call)
    (hcause : call.failure? = some cause) :
    FailsAt (step :: steps) n call.kind cause (first :: (next reply).calls r s)
      ((next reply).run r s) := by
  cases n with
  | zero =>
    obtain rfl : first = call := Option.some.inj hcall
    cases reply with
    | ok c =>
      rw [hcause] at hreply
      cases hreply
    | error cause' =>
      obtain rfl : cause = cause' := Option.some.inj (hcause.symm.trans hreply)
      rw [hfail, calls_settle_error, run_settle_error]
      exact ⟨step, rfl, hfirst.symm, rfl, rfl, warnings_failureReport _ _⟩
  | succ m =>
    rw [List.getElem?_cons_succ] at hcall
    cases reply with
    | ok c =>
      obtain ⟨failed, hstep, hkind, hlength, hresult, hwarnings⟩ := hnext c hcall
      exact ⟨failed, hstep, hkind, congrArg (· + 1) hlength, hresult, hwarnings⟩
    | error cause' =>
      -- The dialogue ended with the first call, so there is no later one.
      rw [hfail, calls_settle_error] at hcall
      cases hcall

/-- Whatever the service is like: a call that fails is the last one, and the dialogue
    ends with its cause. -/
theorem Follows.failsAt {d : Dialogue α} {steps : List CallStep} (h : d.Follows steps)
    {n : Nat} {call : ServiceCall} {cause : KmsError} (hcall : (d.calls r s)[n]? = some call)
    (hcause : call.failure? = some cause) :
    FailsAt steps n call.kind cause (d.calls r s) (d.run r s) := by
  induction h generalizing s n with
  | value a => cases hcall
  | refusal steps e => cases hcall
  | nonce hfail _ ih =>
    exact failsAt_of_reply rfl rfl hfail (fun b _ hlater => ih b hlater) hcall hcause
  | generate hfail _ ih =>
    exact failsAt_of_reply rfl rfl hfail (fun k _ hlater => ih k hlater) hcall hcause
  | unwrap hfail _ ih =>
    exact failsAt_of_reply rfl rfl hfail (fun k _ hlater => ih k hlater) hcall hcause
  | time _ ih => exact ih _ hcall
  | word _ ih => exact ih _ hcall
  | report hevent _ ih =>
    obtain ⟨step, hstep, hkind, hlength, hresult, hwarnings⟩ := ih hcall
    refine ⟨step, hstep, hkind, hlength, hresult, ?_⟩
    rw [run, Outcome.events_after, warnings, List.filter_cons_of_neg (by simpa using hevent)]
    exact hwarnings

end Dialogue

end ChatKeys
