/-
  ChatKeys.Proofs.Service.Draws

  What becomes of the random bytes that a dialogue draws from the service.

  Nobody makes a service give as many bytes as it was asked for.  `Responder.corrected` is the
  same service with its replies cut or filled up to that number.  A dialogue that is given
  another number can notice, or carry on with what it got:

    * `Dialogue.Refuses` — whatever the service is like, the dialogue ends with an error;
    * `Dialogue.Drawless` — it draws nothing, so it comes out the same with the corrected
      service (`Drawless.run_corrected`);
    * `Dialogue.Checked` — every draw of a wrong number of bytes is refused
      (`Checked.refuses`); what is put together from checked parts is checked;
    * `Dialogue.KeepsDraw` — it keeps the bytes as they come, and comes out as with the
      corrected service up to what it keeps (`KeepsDraw.run_eq`).
-/
import ChatKeys.Proofs.Service.Calls
import ChatKeys.Proofs.Service.Running

namespace ChatKeys

/-- Bytes cut or filled up with zeros to a length. -/
def resized (length : Nat) (b : Bytes) : Bytes :=
  b.take length ++ List.replicate (length - b.length) 0

@[simp] theorem length_resized (length : Nat) (b : Bytes) : (resized length b).length = length := by
  rw [resized, List.length_append, List.length_take, List.length_replicate]
  omega

/-- What is there of the first bytes stays. -/
theorem take_resized {n length : Nat} {b : Bytes} (hlength : n ≤ length) (hb : n ≤ b.length) :
    (resized length b).take n = b.take n := by
  have htake : n ≤ (b.take length).length := by
    rw [List.length_take]
    omega
  rw [resized, List.take_append_of_le_length htake, List.take_take, Nat.min_eq_left hlength]

/-- The same service, which gives as many random bytes as it is asked for. -/
def Responder.corrected {σ : Type} (r : Responder σ) : Responder σ :=
  { r with
    nonce := fun length s =>
      ((r.nonce length s).1.map (resized length), (r.nonce length s).2) }

/-- The same outcome with another value. -/
def Outcome.map {σ α : Type} (g : α → α) (o : Outcome σ α) : Outcome σ α :=
  { o with result := o.result.map g }

theorem Outcome.map_id {σ α : Type} (o : Outcome σ α) : o.map id = o := by
  obtain ⟨result, events, s⟩ := o
  cases result with
  | ok a => rfl
  | error e => rfl

namespace Dialogue

variable {σ α β : Type} {r : Responder σ} {s later : σ} {d d' : Dialogue α}
  {f f' : α → Dialogue β} {steps : List CallStep} {length length' : Nat} {step name : String}
  {b : Bytes}

/-! ## Refusals -/

/-- Whoever answers, the dialogue ends with an error for the caller. -/
def Refuses (d : Dialogue α) : Prop :=
  ∀ {σ : Type} (r : Responder σ) (s : σ), ∃ e, (d.run r s).result = .error (.error e)

/-- Whoever answers, the dialogue is not abandoned. -/
def Answers (d : Dialogue α) : Prop :=
  ∀ {σ : Type} (r : Responder σ) (s : σ) (e : Failure), (d.run r s).result = .error e →
    ∃ cause, e = .error cause

theorem Refuses.bind_left (h : d.Refuses) (f : α → Dialogue β) : (d >>= f).Refuses := by
  intro σ r s
  obtain ⟨e, he⟩ := h r s
  refine ⟨e, ?_⟩
  show ((d.bind f).run r s).result = _
  rw [run_bind_error r d f s he]

/-- What goes on with a refusal is a refusal, unless it was abandoned before. -/
theorem Refuses.bind (hd : d.Answers) (hf : ∀ a, (f a).Refuses) : (d >>= f).Refuses := by
  intro σ r s
  show ∃ e, ((d.bind f).run r s).result = _
  cases h : (d.run r s).result with
  | error e =>
    obtain ⟨cause, rfl⟩ := hd r s e h
    rw [run_bind_error r d f s h]
    exact ⟨cause, rfl⟩
  | ok a =>
    rw [run_bind_ok r d f s h]
    exact hf a r _

theorem answers_settle (step : String) (reply : Except KmsError α) :
    (settle step reply).Answers := by
  intro σ r s e h
  cases reply with
  | ok a => cases h
  | error cause =>
    rw [run_settle_error] at h
    exact ⟨_, (Except.error.inj h).symm⟩

theorem answers_generate (scope value : String) : (generate scope value).Answers :=
  fun r s => answers_settle _ _ r (r.generate _ _ s).2

theorem answers_unwrap (key : Key) : (unwrap key).Answers :=
  fun r s => answers_settle _ _ r (r.unwrap key s).2

/-- A step of a key that cannot be done is an error. -/
theorem refuses_liftM {x : Except KeyError α} (h : ∀ a, x ≠ .ok a) :
    (liftM x : Dialogue α).Refuses := by
  intro σ r s
  cases hx : x with
  | ok a => exact absurd hx (h a)
  | error cause =>
    rw [run_liftM]
    exact ⟨_, rfl⟩

/-! ## Nothing drawn -/

/-- No random bytes are asked for. -/
def Drawless : Dialogue α → Prop
  | finish _ => True
  | askNonce _ _ => False
  | askKey _ _ next => ∀ reply, Drawless (next reply)
  | askUnwrap _ next => ∀ reply, Drawless (next reply)
  | askTime next => ∀ t, Drawless (next t)
  | askWord next => ∀ w, Drawless (next w)
  | report _ rest => Drawless rest

theorem drawless_settle_error (step : String) (cause : KmsError) :
    (settle step (.error cause) : Dialogue α).Drawless := by
  cases cause <;> trivial

theorem Drawless.bind (hd : d.Drawless) (hf : ∀ a, (f a).Drawless) : (d >>= f).Drawless := by
  show (d.bind f).Drawless
  induction d with
  | finish result =>
    cases result with
    | ok a => exact hf a
    | error e => trivial
  | askNonce n next ih => exact hd.elim
  | askKey t c next ih => exact fun reply => ih _ (hd reply)
  | askUnwrap k next ih => exact fun reply => ih _ (hd reply)
  | askTime next ih => exact fun t => ih _ (hd t)
  | askWord next ih => exact fun w => ih _ (hd w)
  | report e rest ih => exact ih hd

/-- The steps of a dialogue say whether it draws anything. -/
theorem Follows.drawless (h : d.Follows steps) (hsteps : ∀ step ∈ steps, step.kind ≠ .nonce) :
    d.Drawless := by
  -- A failed step ends the dialogue, and draws nothing more.
  have hreply : ∀ {γ : Type} {name : String} {next : Except KmsError γ → Dialogue α},
      (∀ cause, next (.error cause) = settle name (.error cause)) →
      (∀ c, (next (.ok c)).Drawless) → ∀ reply, (next reply).Drawless := by
    intro γ name next hfail hnext reply
    cases reply with
    | ok c => exact hnext c
    | error cause =>
      rw [hfail]
      exact drawless_settle_error name cause
  induction h with
  | value a => trivial
  | refusal steps e => trivial
  | nonce hfail _ _ => exact absurd rfl (List.forall_mem_cons.mp hsteps).1
  | generate hfail _ ih =>
    exact hreply hfail fun k => ih k (List.forall_mem_cons.mp hsteps).2
  | unwrap hfail _ ih =>
    exact hreply hfail fun k => ih k (List.forall_mem_cons.mp hsteps).2
  | time _ ih => exact fun t => ih t hsteps
  | word _ ih => exact fun w => ih w hsteps
  | report _ _ ih => exact ih hsteps

/-- Behind its first draw a dialogue makes the calls of the steps that are left. -/
theorem Follows.behind_nonce {f : Bytes → Dialogue β}
    (h : (Dialogue.nonce length step >>= f).Follows (⟨.nonce, name⟩ :: steps)) (b : Bytes) :
    (f b).Follows steps := by
  cases h with
  | nonce _ hnext => exact hnext b

theorem Drawless.notMem_calls (h : d.Drawless) (reply : Except KmsError Bytes) :
    ServiceCall.nonce length reply ∉ d.calls r s := by
  induction d generalizing s with
  | finish result => exact List.not_mem_nil
  | askNonce n next ih => exact h.elim
  | askKey t c next ih => exact List.not_mem_cons_of_ne_of_not_mem nofun (ih _ (h _))
  | askUnwrap k next ih => exact List.not_mem_cons_of_ne_of_not_mem nofun (ih _ (h _))
  | askTime next ih => exact ih _ (h _)
  | askWord next ih => exact ih _ (h _)
  | report e rest ih => exact ih h

/-- Who draws nothing cannot tell how many bytes the service would give. -/
theorem Drawless.run_corrected (h : d.Drawless) : d.run r.corrected s = d.run r s := by
  induction d generalizing s with
  | finish result => rfl
  | askNonce n next ih => exact h.elim
  | askKey t c next ih => exact ih _ (h _)
  | askUnwrap k next ih => exact ih _ (h _)
  | askTime next ih => exact ih _ (h _)
  | askWord next ih => exact ih _ (h _)
  | report e rest ih => rw [run, run, ih h]

/-! ## Checked draws -/

/-- Wherever the dialogue draws, it refuses another number of bytes than it asked for. -/
inductive Checked : Dialogue α → Prop
  | finish (result : Except Failure α) : Checked (finish result)
  | nonce {length : Nat} {next : Except KmsError Bytes → Dialogue α}
      (hwrong : ∀ b, b.length ≠ length → (next (.ok b)).Refuses)
      (hnext : ∀ reply, Checked (next reply)) : Checked (askNonce length next)
  | generate {type : KeyType} {context : KeyContext} {next : Except KmsError Key → Dialogue α}
      (hnext : ∀ reply, Checked (next reply)) : Checked (askKey type context next)
  | unwrap {key : Key} {next : Except KmsError Key → Dialogue α}
      (hnext : ∀ reply, Checked (next reply)) : Checked (askUnwrap key next)
  | time {next : Time → Dialogue α} (hnext : ∀ t, Checked (next t)) : Checked (askTime next)
  | word {next : UInt64 → Dialogue α} (hnext : ∀ w, Checked (next w)) : Checked (askWord next)
  | report {event : Event} {rest : Dialogue α} (hrest : Checked rest) :
      Checked (report event rest)

theorem Drawless.checked (h : d.Drawless) : d.Checked := by
  induction d with
  | finish result => exact .finish result
  | askNonce n next ih => exact h.elim
  | askKey t c next ih => exact .generate fun reply => ih _ (h reply)
  | askUnwrap k next ih => exact .unwrap fun reply => ih _ (h reply)
  | askTime next ih => exact .time fun t => ih _ (h t)
  | askWord next ih => exact .word fun w => ih _ (h w)
  | report e rest ih => exact .report (ih h)

namespace Checked

theorem of_follows (h : d.Follows steps) (hsteps : ∀ step ∈ steps, step.kind ≠ .nonce) :
    d.Checked :=
  (h.drawless hsteps).checked

/-- Two checked dialogues in a row are checked. -/
theorem bind (hd : d.Checked) (hf : ∀ a, (f a).Checked) : (d >>= f).Checked := by
  show (d.bind f).Checked
  induction hd with
  | finish result =>
    cases result with
    | ok a => exact hf a
    | error e => exact .finish _
  | nonce hwrong _ ih => exact .nonce (fun b hb => Refuses.bind_left (hwrong b hb) f) ih
  | generate _ ih => exact .generate ih
  | unwrap _ ih => exact .unwrap ih
  | time _ ih => exact .time ih
  | word _ ih => exact .word ih
  | report _ ih => exact .report ih

/-- A draw is checked if what goes on with a wrong number of bytes refuses it. -/
theorem nonce_bind {f : Bytes → Dialogue β}
    (hwrong : ∀ b, b.length ≠ length → (f b).Refuses) (hf : ∀ b, (f b).Checked) :
    (Dialogue.nonce length step >>= f).Checked := by
  refine .nonce hwrong fun reply => ?_
  cases reply with
  | ok b => exact hf b
  | error cause =>
    show ((settle step (.error cause)).bind f).Checked
    rw [settle_error_bind]
    exact (drawless_settle_error step cause).checked

/-- A checked dialogue that is given another number of bytes than it asked for ends with
    an error. -/
theorem refuses (h : d.Checked) (hcall : .nonce length (.ok b) ∈ d.calls r s)
    (hlength : b.length ≠ length) : ∃ e, (d.run r s).result = .error (.error e) := by
  induction h generalizing s with
  | finish result => cases hcall
  | nonce hwrong _ ih =>
    rcases List.mem_cons.mp hcall with heq | hlater
    · obtain ⟨rfl, hreply⟩ := ServiceCall.nonce.inj heq
      have hrefuses := hwrong b hlength r (r.nonce length s).2
      rw [hreply] at hrefuses
      exact hrefuses
    · exact ih _ hlater
  | generate _ ih =>
    rcases List.mem_cons.mp hcall with ⟨⟨⟩⟩ | hlater
    exact ih _ hlater
  | unwrap _ ih =>
    rcases List.mem_cons.mp hcall with ⟨⟨⟩⟩ | hlater
    exact ih _ hlater
  | time _ ih => exact ih _ hcall
  | word _ ih => exact ih _ hcall
  | report _ ih => exact ih hcall

end Checked

/-! ## Draws that are kept -/

section

variable {f : Bytes → Dialogue β}

/-- Where only the first call can be a draw, a reply among the calls is the reply to it. -/
theorem nonce_eq_of_mem_calls (hf : ∀ b, (f b).Drawless)
    (h : .nonce length' (.ok b) ∈ (nonce length step >>= f).calls r s) :
    length' = length ∧ r.nonce length s = (.ok b, (r.nonce length s).2) := by
  rcases List.mem_cons.mp h with heq | hlater
  · obtain ⟨hlength, hreply⟩ := ServiceCall.nonce.inj heq
    exact ⟨hlength, Prod.ext hreply.symm rfl⟩
  · change _ ∈ ((settle step (r.nonce length s).1).bind f).calls r (r.nonce length s).2 at hlater
    cases hreply : (r.nonce length s).1 with
    | ok b' =>
      rw [hreply] at hlater
      exact absurd hlater ((hf b').notMem_calls _)
    | error cause =>
      rw [hreply, settle_error_bind, calls_settle_error] at hlater
      cases hlater

theorem run_nonce_bind (h : r.nonce length s = (.ok b, later)) :
    (nonce length step >>= f).run r s = (f b).run r later := by
  show ((settle step (r.nonce length s).1).bind f).run r (r.nonce length s).2 = _
  rw [h]
  rfl

end

/-- Two dialogues in a row come out alike, up to a value, if both parts do. -/
theorem run_bind_map {g : α → α} {g' : β → β} (hd : d.run r s = (d'.run r s).map g)
    (hf : ∀ a s, (f (g a)).run r s = ((f' a).run r s).map g') :
    (d >>= f).run r s = ((d' >>= f').run r s).map g' := by
  show (d.bind f).run r s = ((d'.bind f').run r s).map g'
  cases h' : (d'.run r s).result with
  | error e =>
    have h : (d.run r s).result = .error e := by
      rw [hd, Outcome.map, h']
      rfl
    rw [run_bind_error r d f s h, run_bind_error r d' f' s h', hd]
    rfl
  | ok a =>
    have h : (d.run r s).result = .ok (g a) := by
      rw [hd, Outcome.map, h']
      rfl
    rw [run_bind_ok r d f s h, run_bind_ok r d' f' s h', hd]
    show (⟨_, _, _⟩ : Outcome σ β) = _
    simp only [Outcome.map, hf]

/-- The same with the same first part. -/
theorem run_bind_map_right {g : β → β} (d : Dialogue α)
    (hf : ∀ a s, (f a).run r s = ((f' a).run r s).map g) :
    (d >>= f).run r s = ((d >>= f').run r s).map g := by
  have hd : d.run r s = (d.run r s).map id := (Outcome.map_id _).symm
  exact run_bind_map hd hf

/-- The dialogue draws first of all, and only then. What it does with the bytes depends on
    the first `least` of them, and on the others only in that `keep` keeps them. -/
def KeepsDraw (length least : Nat) (keep : Bytes → α → α) (d : Dialogue α) : Prop :=
  ∃ step rest, d = nonce length step >>= rest ∧ (∀ b, (rest b).Drawless) ∧
    ∀ b b', least ≤ b.length → least ≤ b'.length → b.take least = b'.take least →
      ∀ {σ : Type} (r : Responder σ) (s : σ),
        (rest b).run r s = ((rest b').run r s).map (keep (b.drop least))

namespace KeepsDraw

variable {least : Nat} {keep : Bytes → α → α} {keep' : Bytes → β → β}

/-- What goes on with the value keeps the bytes if it hands them on. -/
theorem bind (hd : d.KeepsDraw length least keep) (hf : ∀ a, (f a).Drawless)
    (hkeep : ∀ b a {σ : Type} (r : Responder σ) (s : σ),
      (f (keep b a)).run r s = ((f a).run r s).map (keep' b)) :
    (d >>= f).KeepsDraw length least keep' := by
  obtain ⟨step, rest, rfl, hrest, hkeeps⟩ := hd
  refine ⟨step, fun b => rest b >>= f, bind_assoc _ _ _, fun b => (hrest b).bind hf, ?_⟩
  intro b b' hb hb' htake σ r s
  exact run_bind_map (hkeeps b b' hb hb' htake r s) fun a s => hkeep _ a r s

/-- However many bytes such a dialogue is given, if they are enough it comes out as it does
    with the right number of bytes, up to the bytes that it keeps. -/
theorem run_eq (h : d.KeepsDraw length least keep) (hleast : least ≤ length)
    (hcall : .nonce length' (.ok b) ∈ d.calls r s) (hb : least ≤ b.length) :
    d.run r s = (d.run r.corrected s).map (keep (b.drop least)) := by
  obtain ⟨step, rest, rfl, hrest, hkeeps⟩ := h
  obtain ⟨-, hreply⟩ := nonce_eq_of_mem_calls hrest hcall
  have hcorrected : r.corrected.nonce length s
      = (.ok (resized length b), (r.nonce length s).2) := by
    show ((r.nonce length s).1.map _, _) = _
    rw [hreply]
    rfl
  have hresized : least ≤ (resized length b).length := by
    rw [length_resized]
    exact hleast
  rw [run_nonce_bind hreply, run_nonce_bind hcorrected, (hrest _).run_corrected,
    hkeeps b (resized length b) hb hresized (take_resized hleast hb).symm]

end KeepsDraw

/-! ## Bytes cut into parts -/

theorem cut_bind {f : Bytes × Bytes → Dialogue β} {size : Nat} (h : size ≤ b.length) :
    (cut size b >>= f) = f (b.take size, b.drop size) := by
  rw [cut, if_neg (Nat.not_lt.mpr h), pure_bind]

theorem cut_bind_of_lt {f : Bytes × Bytes → Dialogue β} {size : Nat} (h : b.length < size) :
    (cut size b >>= f) = fail (.shortNonce size b.length) := by
  rw [cut, if_pos h, fail_bind]

end Dialogue

end ChatKeys
