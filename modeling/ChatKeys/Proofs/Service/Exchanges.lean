/-
  ChatKeys.Proofs.Service.Exchanges

  What was said in a dialogue that came to a value.

  `Dialogue.Gives` puts the calls made of the service and the value together.  Each
  step has one lemma that says what the rest of the dialogue starts with, so the whole
  exchange of an operation is read off its definition by rewriting with them:

    * `gives_bind_iff` — two dialogues in a row, the calls of one behind those of the
      other;
    * `gives_note_bind_iff`, `gives_liftM_bind_iff`, `gives_logged_bind_iff`,
      `gives_cut_bind_iff` — steps that call nobody;
    * `gives_nonce_bind_iff`, `gives_generate_bind_iff`, `gives_unwrap_bind_iff` — one
      call, with a reply that is a value.

  No responder is assumed to be of any particular kind, save in the last lemma: a service
  with its master key answers the same whenever it is asked to unwrap a key.
-/
import ChatKeys.Proofs.Service.Calls
import ChatKeys.Proofs.Service.Running

namespace ChatKeys

namespace Dialogue

variable {σ α β γ : Type} {r : Responder σ} {s : σ} {d : Dialogue α} {f : α → Dialogue β} {a : α}
  {b : β} {calls : List ServiceCall}

/-- The dialogue comes to a value, after these calls of the service. -/
def Gives (d : Dialogue α) (r : Responder σ) (s : σ) (calls : List ServiceCall) (a : α) : Prop :=
  d.calls r s = calls ∧ (d.run r s).result = .ok a

theorem gives_of_run (h : (d.run r s).result = .ok a) : d.Gives r s (d.calls r s) a := ⟨rfl, h⟩

/-! ## Two dialogues in a row -/

theorem calls_bind (h : (d.run r s).result = .ok a) :
    (d >>= f).calls r s = d.calls r s ++ (f a).calls r (d.run r s).state := by
  show (d.bind f).calls r s = _
  induction d generalizing s with
  | finish result =>
    cases h
    rfl
  | askNonce n next ih => exact congrArg _ (ih _ h)
  | askKey t c next ih => exact congrArg _ (ih _ h)
  | askUnwrap k next ih => exact congrArg _ (ih _ h)
  | askTime next ih => exact ih _ h
  | askWord next ih => exact ih _ h
  | report e rest ih => exact ih h

theorem gives_bind_iff :
    (d >>= f).Gives r s calls b ↔
      ∃ a before behind, d.Gives r s before a ∧ (f a).Gives r (d.run r s).state behind b ∧
        calls = before ++ behind := by
  simp only [Gives, run_bind_eq_ok_iff]
  constructor
  · rintro ⟨rfl, a, ha, hb⟩
    exact ⟨a, _, _, ⟨rfl, ha⟩, ⟨rfl, hb⟩, calls_bind ha⟩
  · rintro ⟨a, _, _, ⟨rfl, ha⟩, ⟨rfl, hb⟩, rfl⟩
    exact ⟨calls_bind ha, a, ha, hb⟩

/-- A part of a dialogue goes on as the whole does. -/
theorem gives_bind_assoc {g : β → Dialogue γ} {c : γ} :
    ((d >>= f) >>= g).Gives r s calls c ↔ (d >>= fun a => f a >>= g).Gives r s calls c := by
  show ((d.bind f).bind g).Gives r s calls c ↔ _
  rw [bind_assoc]
  rfl

theorem gives_pure_iff {a' : α} :
    (pure a : Dialogue α).Gives r s calls a' ↔ a = a' ∧ calls = [] := by
  constructor
  · rintro ⟨rfl, h⟩
    exact ⟨Except.ok.inj h, rfl⟩
  · rintro ⟨rfl, rfl⟩
    exact ⟨rfl, rfl⟩

/-! ## Steps without calls -/

theorem gives_note_bind_iff {event : Event} {f : Unit → Dialogue β} :
    (note event >>= f).Gives r s calls b ↔ (f ()).Gives r s calls b := Iff.rfl

theorem gives_liftM_iff {x : Except KeyError α} :
    (liftM x : Dialogue α).Gives r s calls a ↔ x = .ok a ∧ calls = [] := by
  cases x with
  | ok a => exact gives_pure_iff.trans (and_congr_left' (Except.ok.injEq _ _).to_iff.symm)
  | error e =>
    constructor
    · rintro ⟨-, ⟨⟩⟩
    · rintro ⟨⟨⟩, -⟩

theorem gives_liftM_bind_iff {x : Except KeyError α} :
    ((liftM x : Dialogue α) >>= f).Gives r s calls b ↔
      ∃ a, x = .ok a ∧ (f a).Gives r s calls b := by
  cases x with
  | ok a =>
    constructor
    · intro h
      exact ⟨a, rfl, h⟩
    · rintro ⟨_, ⟨⟩, h⟩
      exact h
  | error e =>
    constructor
    · rintro ⟨-, ⟨⟩⟩
    · rintro ⟨_, ⟨⟩, -⟩

theorem gives_logged_bind_iff {x : Logged α} :
    ((liftM x : Dialogue α) >>= f).Gives r s calls b ↔
      ∃ a, x.result = .ok a ∧ (f a).Gives r s calls b := by
  obtain ⟨events, result⟩ := x
  -- Its events are reported one by one before the result counts.
  show ((events.foldr report (ofExcept result)).bind f).Gives r s calls b ↔ _
  induction events with
  | cons event events ih => exact ih
  | nil =>
    cases result with
    | ok a =>
      constructor
      · intro h
        exact ⟨a, rfl, h⟩
      · rintro ⟨_, ⟨⟩, h⟩
        exact h
    | error e =>
      constructor
      · rintro ⟨-, ⟨⟩⟩
      · rintro ⟨_, ⟨⟩, -⟩

theorem gives_cut_bind_iff {size : Nat} {bytes : Bytes} {f : Bytes × Bytes → Dialogue β} :
    (cut size bytes >>= f).Gives r s calls b ↔
      size ≤ bytes.length ∧ (f (bytes.take size, bytes.drop size)).Gives r s calls b := by
  rw [cut]
  split
  · next hshort =>
    constructor
    · rintro ⟨-, ⟨⟩⟩
    · rintro ⟨hlong, -⟩
      omega
  · next hlong => exact (and_iff_right (Nat.not_lt.mp hlong)).symm

/-! ## Calls -/

/-- The dialogue goes on from a call only with a reply that is a value. -/
theorem gives_settle_bind_iff {step : String} {reply : Except KmsError α} :
    ((settle step reply).bind f).Gives r s calls b ↔
      ∃ a, reply = .ok a ∧ (f a).Gives r s calls b := by
  cases reply with
  | ok a =>
    constructor
    · intro h
      exact ⟨a, rfl, h⟩
    · rintro ⟨_, ⟨⟩, h⟩
      exact h
  | error cause =>
    rw [settle_error_bind, Gives, run_settle_error]
    constructor
    · rintro ⟨-, ⟨⟩⟩
    · rintro ⟨_, ⟨⟩, -⟩

/-- What a call of any kind comes to: it is the first of the calls. -/
theorem gives_call_iff {step : String} {reply : Except KmsError α × σ}
    {call : Except KmsError α → ServiceCall} :
    (call reply.1 :: ((settle step reply.1).bind f).calls r reply.2 = calls ∧
        (((settle step reply.1).bind f).run r reply.2).result = .ok b) ↔
      ∃ a later behind, reply = (.ok a, later) ∧ (f a).Gives r later behind b ∧
        calls = call (.ok a) :: behind := by
  obtain ⟨reply, later⟩ := reply
  constructor
  · rintro ⟨rfl, h⟩
    obtain ⟨a, rfl, hcalls, hresult⟩ := gives_settle_bind_iff.mp ⟨rfl, h⟩
    exact ⟨a, later, _, rfl, ⟨rfl, hresult⟩, congrArg _ hcalls.symm⟩
  · rintro ⟨a, _, _, ⟨⟩, ⟨rfl, h⟩, rfl⟩
    exact ⟨rfl, h⟩

theorem gives_nonce_bind_iff {length : Nat} {step : String} {f : Bytes → Dialogue β} :
    (nonce length step >>= f).Gives r s calls b ↔
      ∃ bytes later behind, r.nonce length s = (.ok bytes, later) ∧
        (f bytes).Gives r later behind b ∧ calls = .nonce length (.ok bytes) :: behind :=
  gives_call_iff

theorem gives_generate_bind_iff {scope value : String} {f : Key → Dialogue β} :
    (generate scope value >>= f).Gives r s calls b ↔
      ∃ w later behind, r.generate .xchacha20poly1305 ⟨scope, value⟩ s = (.ok w, later) ∧
        (f w).Gives r later behind b ∧
        calls = .generate .xchacha20poly1305 ⟨scope, value⟩ (.ok w) :: behind :=
  gives_call_iff

theorem gives_unwrap_bind_iff {w : Key} {f : Key → Dialogue β} :
    (unwrap w >>= f).Gives r s calls b ↔
      ∃ k later behind, r.unwrap w s = (.ok k, later) ∧ (f k).Gives r later behind b ∧
        calls = .unwrap w (.ok k) :: behind :=
  gives_call_iff

end Dialogue

/-- Whenever a service with its master key is asked to unwrap a key, it answers the same. -/
theorem LocalKms.unwrap_of_mem_calls {kms : LocalKms} {e : Environment} {α : Type}
    {d : Dialogue α} {w : Key} {reply : Except KmsError Key}
    (h : .unwrap w reply ∈ d.calls kms.responder e) : kms.unwrap w = reply := by
  induction d generalizing e with
  | finish result => cases h
  | askNonce n next ih =>
    rcases List.mem_cons.mp h with hfirst | hlater
    · cases hfirst
    · exact ih _ hlater
  | askKey t c next ih =>
    rcases List.mem_cons.mp h with hfirst | hlater
    · cases hfirst
    · exact ih _ hlater
  | askUnwrap k next ih =>
    rcases List.mem_cons.mp h with hfirst | hlater
    · cases hfirst
      rfl
    · exact ih _ hlater
  | askTime next ih => exact ih _ h
  | askWord next ih => exact ih _ h
  | report e rest ih => exact ih h

end ChatKeys
