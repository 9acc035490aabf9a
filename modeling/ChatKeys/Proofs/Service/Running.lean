/-
  ChatKeys.Proofs.Service.Running

  How dialogues come out, step by step.

    * `Dialogue.run_bind_eq_ok_iff` — a dialogue of two parts gives a value exactly
      if both parts do, one after the other;
    * `Dialogue.result_settle_eq_ok_iff`, `Dialogue.run_liftM`,
      `Dialogue.run_liftM_logged` — the same for the single steps, with any responder;
    * `LocalKms.unwrap_eq_ok_iff`, `LocalKms.exists_generate` — the answers of a
      service whose master key is at hand: it unwraps exactly what was wrapped under
      its master key, and always makes keys.
-/
import ChatKeys.Proofs.Key.Wrapping

namespace ChatKeys

namespace Dialogue

variable {σ α β : Type} {r : Responder σ} {s : σ}

/-! ## Parts of a dialogue -/

theorem run_bind_eq_ok_iff {d : Dialogue α} {f : α → Dialogue β} {b : β} :
    ((d >>= f).run r s).result = .ok b ↔
      ∃ a, (d.run r s).result = .ok a ∧ ((f a).run r (d.run r s).state).result = .ok b := by
  show ((d.bind f).run r s).result = .ok b ↔ _
  cases hd : (d.run r s).result with
  | error e =>
    rw [run_bind_error r d f s hd]
    simp
  | ok a =>
    rw [run_bind_ok r d f s hd]
    simp

/-- A step whose outcome is known is taken. -/
theorem result_bind_of_run {d : Dialogue α} {f : α → Dialogue β} {a : α} {events : List Event}
    {later : σ} (h : d.run r s = ⟨.ok a, events, later⟩) :
    ((d >>= f).run r s).result = ((f a).run r later).result := by
  have hd : (d.run r s).result = .ok a := by rw [h]
  show ((d.bind f).run r s).result = _
  rw [run_bind_ok r d f s hd, h]

/-- Two steps whose outcomes are known, one after the other. -/
theorem run_bind_of_run {d : Dialogue α} {f : α → Dialogue β} {a : α} {events events' : List Event}
    {later last : σ} {result : Except Failure β} (h : d.run r s = ⟨.ok a, events, later⟩)
    (h' : (f a).run r later = ⟨result, events', last⟩) :
    (d >>= f).run r s = ⟨result, events ++ events', last⟩ := by
  have hd : (d.run r s).result = .ok a := by rw [h]
  show (d.bind f).run r s = _
  rw [run_bind_ok r d f s hd, h, h']

@[simp] theorem run_pure (a : α) : (pure a : Dialogue α).run r s = ⟨.ok a, [], s⟩ := rfl

@[simp] theorem run_note (event : Event) : (note event).run r s = ⟨.ok (), [event], s⟩ := rfl

/-- An event that is reported at the end does not change the result. -/
theorem result_noted_eq_ok_iff {d : Dialogue α} {event : Event} {a : α} :
    ((do
      let a ← d
      note event
      return a).run r s).result = .ok a ↔ (d.run r s).result = .ok a := by
  simp only [run_bind_eq_ok_iff, run_note, run_pure]
  constructor
  · rintro ⟨_, h, _, -, ⟨⟩⟩
    exact h
  · intro h
    exact ⟨a, h, (), trivial, rfl⟩

/-- An error of a key ends the dialogue. -/
@[simp] theorem run_liftM (x : Except KeyError α) :
    (liftM x : Dialogue α).run r s =
      ⟨x.mapError fun cause => .error (.keyState cause), [], s⟩ := by
  cases x <;> rfl

theorem run_liftM_of_ok {x : Except KeyError α} {a : α} (h : x = .ok a) :
    (liftM x : Dialogue α).run r s = ⟨.ok a, [], s⟩ := by
  rw [run_liftM, h]
  rfl

/-- An answer that asks nobody is reported and passed on. -/
theorem run_liftM_logged {x : Logged α} {a : α} (h : x.result = .ok a) :
    (liftM x : Dialogue α).run r s = ⟨.ok a, x.events, s⟩ := by
  obtain ⟨events, result⟩ := x
  cases h
  show (events.foldr report (finish (.ok a))).run r s = ⟨.ok a, events, s⟩
  induction events with
  | nil => rfl
  | cons event events ih => rw [List.foldr_cons, run, ih, Outcome.after]

theorem run_cut {size : Nat} {bytes : Bytes} (h : size ≤ bytes.length) :
    (cut size bytes).run r s = ⟨.ok (bytes.take size, bytes.drop size), [], s⟩ := by
  rw [cut, if_neg (by omega)]
  rfl

theorem result_settle_eq_ok_iff {step : String} {reply : Except KmsError α} {a : α} :
    ((settle step reply).run r s).result = .ok a ↔ reply = .ok a := by
  cases reply with
  | ok b => simp [settle, run]
  | error cause => cases cause <;> simp [settle, refuse, fail, run]

end Dialogue

/-! ## A service with its master key -/

namespace LocalKms

variable {kms : LocalKms} {e : Environment} {k w : Key}

/-- The service unwraps exactly what was wrapped under its master key. -/
theorem unwrap_eq_ok_iff : kms.unwrap w = .ok k ↔ k.wrap kms.master = .ok w := by
  rw [← Key.unwrap_eq_ok_iff, unwrap]
  cases w.unwrap kms.master with
  | ok opened => simp
  | error cause => cases cause <;> simp

/-- The service always makes a key, of the type and for the context asked for. -/
theorem exists_generate (kms : LocalKms) (type : KeyType) (context : KeyContext)
    (e : Environment) :
    ∃ k w later, kms.generate type context e = (.ok w, later) ∧ kms.unwrap w = .ok k ∧
      k.type = type ∧ k.context = some context ∧ k.isEncrypted = false := by
  let secret : KeyBytes := ⟨(e.draw keySize).1, Environment.length_draw _ _⟩
  let iv := ((e.draw keySize).2.draw ivSize).1
  let k := ((Key.ofSecret type secret).withIv iv).withContext context.scope context.value
  have hiv : k.iv.length = ivSize := Environment.length_draw _ _
  obtain ⟨w, hw⟩ := Key.exists_wrap (rfl : k.material = .plain secret) kms.isUsable_master hiv
  refine ⟨k, w, ((e.draw keySize).2.draw ivSize).2, ?_, unwrap_eq_ok_iff.mpr hw, rfl, rfl, rfl⟩
  show ((k.wrap kms.master).mapError _, _) = _
  rw [hw]
  rfl

/-- Making a key draws its secret and its vector, and takes no time. -/
theorem snd_generate (kms : LocalKms) (type : KeyType) (context : KeyContext) (e : Environment) :
    (kms.generate type context e).2 = ((e.draw keySize).2.draw ivSize).2 := rfl

theorem result_unwrap_eq_ok_iff :
    ((Dialogue.unwrap w).run kms.responder e).result = .ok k ↔ kms.unwrap w = .ok k :=
  Dialogue.result_settle_eq_ok_iff

theorem run_unwrap (h : kms.unwrap w = .ok k) :
    (Dialogue.unwrap w).run kms.responder e = ⟨.ok k, [], e⟩ := by
  show (Dialogue.settle _ (kms.unwrap w)).run kms.responder e = _
  rw [h]
  rfl

/-- Unwrapping asks nothing else of the service, so whatever follows starts where it
    started. -/
theorem result_unwrap_bind_eq_ok_iff {β : Type} {f : Key → Dialogue β} {b : β} :
    ((Dialogue.unwrap w >>= f).run kms.responder e).result = .ok b ↔
      ∃ k, kms.unwrap w = .ok k ∧ ((f k).run kms.responder e).result = .ok b := by
  simp only [Dialogue.run_bind_eq_ok_iff, result_unwrap_eq_ok_iff]
  constructor
  · rintro ⟨k, hk, h⟩
    rw [run_unwrap hk] at h
    exact ⟨k, hk, h⟩
  · rintro ⟨k, hk, h⟩
    refine ⟨k, hk, ?_⟩
    rw [run_unwrap hk]
    exact h

theorem run_generate {scope value : String} {later : Environment}
    (h : kms.generate .xchacha20poly1305 ⟨scope, value⟩ e = (.ok w, later)) :
    (Dialogue.generate scope value).run kms.responder e = ⟨.ok w, [], later⟩ := by
  show (let (reply, later) := kms.generate .xchacha20poly1305 ⟨scope, value⟩ e
    (Dialogue.settle Dialogue.generateStep reply).run kms.responder later) = _
  rw [h]
  rfl

@[simp] theorem run_nonce (length : Nat) (step : String) :
    (Dialogue.nonce length step).run kms.responder e =
      ⟨.ok (e.draw length).1, [], (e.draw length).2⟩ := rfl

@[simp] theorem run_freshSnowflake :
    Dialogue.freshSnowflake.run kms.responder e =
      ⟨.ok (Snowflake.ofTime e.clock e.drawWord.1), [], e.drawWord.2⟩ := rfl

@[simp] theorem run_now : Dialogue.now.run kms.responder e = ⟨.ok e.clock, [], e⟩ := rfl

end LocalKms

end ChatKeys
