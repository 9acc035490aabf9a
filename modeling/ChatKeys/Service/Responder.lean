/-
  ChatKeys.Service.Responder

  Whoever answers the questions of a dialogue.  A `Responder` keeps a state of
  some type and answers from it in any way at all; `Dialogue.run` carries a
  dialogue through to its end and collects the events reported.

  Two dialogues in a row come out as the second does from where the first one
  ended (`Dialogue.run_bind_ok`), unless the first one fails
  (`Dialogue.run_bind_error`).
-/
import ChatKeys.Service.Dialogue

namespace ChatKeys

/-- Answers to all questions, from a state that every answer may change. -/
structure Responder (σ : Type) where
  nonce : (length : Nat) → σ → Except KmsError Bytes × σ
  generate : KeyType → KeyContext → σ → Except KmsError Key × σ
  unwrap : Key → σ → Except KmsError Key × σ
  time : σ → Time × σ
  word : σ → UInt64 × σ

/-- How a dialogue came out. -/
structure Outcome (σ α : Type) where
  result : Except Failure α
  /-- What was reported, in order. -/
  events : List Event
  /-- The responder's state at the end. -/
  state : σ

namespace Outcome

variable {σ α : Type}

/-- The same outcome with an event in front. -/
def after (event : Event) (o : Outcome σ α) : Outcome σ α :=
  { o with events := event :: o.events }

@[simp] theorem result_after (event : Event) (o : Outcome σ α) :
    (o.after event).result = o.result := rfl

@[simp] theorem events_after (event : Event) (o : Outcome σ α) :
    (o.after event).events = event :: o.events := rfl

@[simp] theorem state_after (event : Event) (o : Outcome σ α) :
    (o.after event).state = o.state := rfl

end Outcome

namespace Dialogue

variable {σ α β : Type}

/-- Carries a dialogue through to its end. -/
def run (r : Responder σ) : Dialogue α → σ → Outcome σ α
  | finish result, s => ⟨result, [], s⟩
  | askNonce length next, s => let (reply, s) := r.nonce length s; run r (next reply) s
  | askKey type context next, s => let (reply, s) := r.generate type context s; run r (next reply) s
  | askUnwrap key next, s => let (reply, s) := r.unwrap key s; run r (next reply) s
  | askTime next, s => let (reply, s) := r.time s; run r (next reply) s
  | askWord next, s => let (reply, s) := r.word s; run r (next reply) s
  | report event rest, s => (run r rest s).after event

/-- After a dialogue that ends with a value, the next one goes on from the state
    that was reached. -/
theorem run_bind_ok (r : Responder σ) (d : Dialogue α) (f : α → Dialogue β) (s : σ) {a : α}
    (h : (d.run r s).result = .ok a) :
    (d.bind f).run r s =
      { (f a).run r (d.run r s).state with
        events := (d.run r s).events ++ ((f a).run r (d.run r s).state).events } := by
  induction d generalizing s with
  | finish result =>
    cases result with
    | ok b => cases h; rfl
    | error e => cases h
  | askNonce n next ih => exact ih _ _ h
  | askKey t c next ih => exact ih _ _ h
  | askUnwrap k next ih => exact ih _ _ h
  | askTime next ih => exact ih _ _ h
  | askWord next ih => exact ih _ _ h
  | report e rest ih =>
    simp only [bind, run, Outcome.result_after] at h ⊢
    rw [ih s h]
    rfl

/-- A dialogue that fails ends the whole. -/
theorem run_bind_error (r : Responder σ) (d : Dialogue α) (f : α → Dialogue β) (s : σ)
    {e : Failure} (h : (d.run r s).result = .error e) :
    (d.bind f).run r s = ⟨.error e, (d.run r s).events, (d.run r s).state⟩ := by
  induction d generalizing s with
  | finish result =>
    cases result with
    | ok b => cases h
    | error e => cases h; rfl
  | askNonce n next ih => exact ih _ _ h
  | askKey t c next ih => exact ih _ _ h
  | askUnwrap k next ih => exact ih _ _ h
  | askTime next ih => exact ih _ _ h
  | askWord next ih => exact ih _ _ h
  | report e rest ih =>
    simp only [bind, run, Outcome.result_after] at h ⊢
    rw [ih s h]
    rfl

end Dialogue

end ChatKeys
