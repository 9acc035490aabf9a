/-
  ChatKeys.Proofs.Account.Deeds

  What is sealed when something is done to an account, and with which vectors.

  The key-encrypting key of an account seals its key pair and every capability that is
  issued to it.  A `Deed` is anything that can be done to an account; what it seals under
  this key, if anything, is one capability, with a vector that the service was just heard to
  send.  What it seals besides is the user key, under the client key.

    * `handedOut` — the nonces and vectors that the service sent in some calls;
    * `Account.Sealing` — the calls by which a capability is issued; every kind of grant ends
      with them (`sealing_of_grantTo`, `sealing_of_appointStaff`);
    * `Account.cases_of_gives` — all that a deed can do, and `Account.clientKey_of_gives` —
      under which client key;
    * `Account.Value` — what a value of an account has sealed, and `Value.deed` — what comes
      of it by a deed.
-/
import ChatKeys.Proofs.Account.Grants
import ChatKeys.Proofs.Service.Exchanges

namespace ChatKeys

open scoped List

/-! ## What the service hands out -/

/-- The parts of a reply that serve as nonces and vectors. Behind the nonce of an account,
    and between the vector and the nonce of a room, there is the secret of a key pair. -/
def ServiceCall.slices : ServiceCall → List Bytes
  | nonce length (.ok bytes) =>
    if length = ivSize then [bytes]
    else if length = Account.nonceSize + KeyPair.privateKeySize then [bytes.take Account.nonceSize]
    else if length = ivSize + KeyPair.privateKeySize + roomNonceSize then
      [bytes.take ivSize, bytes.drop (ivSize + KeyPair.privateKeySize)]
    else []
  | generate _ _ (.ok w) => [w.iv]
  | _ => []

/-- All that was handed out as nonces and vectors in some calls. -/
def handedOut (calls : List ServiceCall) : List Bytes :=
  calls.flatMap ServiceCall.slices

@[simp] theorem handedOut_append (calls later : List ServiceCall) :
    handedOut (calls ++ later) = handedOut calls ++ handedOut later :=
  List.flatMap_append

namespace Account

variable {kms : LocalKms} {e : Environment} {kek k c c' : Key} {a a' a₀ : Account}
  {capability : Capability} {calls : List ServiceCall}

/-! ## Issuing capabilities -/

/-- The calls end with those by which a capability is issued to an account: the service
    unwraps the account's system key and sends a vector. -/
def Sealing (a : Account) (calls : List ServiceCall) (capability : Capability) : Prop :=
  ∃ before kek iv k,
    calls = before ++ [.unwrap a.systemKey (.ok kek), .nonce ivSize (.ok iv)] ∧
      Capability.issue kek iv k = .ok capability

theorem sealing_of_grant {σ : Type} {r : Responder σ} {s : σ}
    (h : (a.grant k).Gives r s calls capability) : a.Sealing calls capability := by
  simp only [grant, Dialogue.gives_unwrap_bind_iff, Dialogue.gives_nonce_bind_iff,
    Dialogue.gives_liftM_iff] at h
  obtain ⟨kek, _, _, -, ⟨iv, _, _, -, ⟨hissue, rfl⟩, rfl⟩, rfl⟩ := h
  exact ⟨[], kek, iv, k, rfl, hissue⟩

theorem Sealing.behind (h : a.Sealing calls capability) (before : List ServiceCall) :
    a.Sealing (before ++ calls) capability := by
  obtain ⟨between, kek, iv, k, rfl, hissue⟩ := h
  exact ⟨before ++ between, kek, iv, k, (List.append_assoc ..).symm, hissue⟩

/-- Whatever is granted, it is issued in the same way in the end. -/
theorem sealing_of_grantTo {σ : Type} {r : Responder σ} {s : σ} {gift : Gift}
    (h : (gift.grantTo a).Gives r s calls capability) : a.Sealing calls capability := by
  cases gift with
  | key k => exact sealing_of_grant h
  | managerKey room =>
    simp only [Gift.grantTo, Room.appointManager, Room.managerKey,
      Dialogue.gives_unwrap_bind_iff] at h
    obtain ⟨managerKey, _, _, -, hrest, rfl⟩ := h
    obtain ⟨c, before, _, hgrant, hnoted, rfl⟩ := Dialogue.gives_bind_iff.mp hrest
    rw [Dialogue.gives_note_bind_iff, Dialogue.gives_pure_iff] at hnoted
    obtain ⟨rfl, rfl⟩ := hnoted
    rw [List.append_nil]
    exact (sealing_of_grant hgrant).behind [_]
  | messageKey m =>
    simp only [Gift.grantTo, MessageKey.grantTo, MessageKey.unlock,
      Dialogue.gives_unwrap_bind_iff] at h
    obtain ⟨key, _, _, -, hgrant, rfl⟩ := h
    exact (sealing_of_grant hgrant).behind [_]

theorem sealing_of_appointStaff {σ : Type} {r : Responder σ} {s : σ} {credential : Key}
    (h : (a.appointStaff credential).Gives r s calls a') :
    ∃ capability, a' = { a with staffCapability := some capability } ∧
      a.Sealing calls capability := by
  rw [appointStaff, Dialogue.gives_bind_iff] at h
  obtain ⟨capability, before, _, hgrant, hnoted, rfl⟩ := h
  rw [Dialogue.gives_note_bind_iff, Dialogue.gives_pure_iff] at hnoted
  obtain ⟨rfl, rfl⟩ := hnoted
  rw [List.append_nil]
  exact ⟨capability, rfl, sealing_of_grant hgrant⟩

end Account

/-! ## Deeds -/

/-- Something that is done to an account. -/
inductive Deed where
  | grant (gift : Account.Gift)
  | replaceClientKey (old new : Key)
  | resetPassword (id : Snowflake) (authorization : ResetAuthorization) (password : String)
  | appointStaff (credential : Key)
  | dismissStaff
  /-- The account is stored and read back, if it can be. -/
  | reload

namespace Deed

/-- What becomes of an account and its client key, and what is issued to it. -/
def dialogue (a : Account) (c : Key) : Deed → Dialogue ((Account × Key) × List Capability)
  | grant gift => do
    let capability ← gift.grantTo a
    return ((a, c), [capability])
  | replaceClientKey old new => do
    let a ← a.replaceClientKey old new
    return ((a, new), [])
  | resetPassword id authorization password => do
    let renewed ← a.resetPassword id authorization password
    return (renewed, [])
  | appointStaff credential => do
    let a ← a.appointStaff credential
    return ((a, c), a.staffCapability.toList)
  | dismissStaff => return ((a.dismissStaff, c), [])
  | reload => return ((a.reloaded.getD a, c), [])

/-- Whether a deed is to issue a capability. -/
def issues : Deed → Bool
  | grant _ | appointStaff _ => true
  | _ => false

/-- The client key after a deed: the one that is given for it, or the one of the password. -/
def clientKey (a : Account) (c : Key) : Deed → Key
  | replaceClientKey _ new => new
  | resetPassword _ _ password => a.clientKey password
  | _ => c

end Deed

/-! ## What comes of a deed -/

/-- The vector that a capability is sealed with, as its identifier gives it. -/
def Capability.vector? (capability : Capability) : Option Bytes :=
  Base64.decode? capability.id

theorem Capability.vector?_of_issue {recipient k : Key} {iv : Bytes} {c : Capability}
    (h : issue recipient iv k = .ok c) : c.vector? = some iv := by
  obtain ⟨_, _, -, -, -, rfl⟩ := issue_eq_ok_iff.mp h
  exact Base64.decode?_encode iv

/-- Some capabilities are sealed to a key, and their vectors were handed out one after the
    other. -/
structure IssuedTo (kek : Key) (issued : List Capability) (out : List Bytes) : Prop where
  issue : ∀ capability ∈ issued, ∃ iv k, Capability.issue kek iv k = .ok capability
  vectors : issued.map Capability.vector? <+ out.map some

theorem IssuedTo.nil (kek : Key) (out : List Bytes) : IssuedTo kek [] out where
  issue := List.forall_mem_nil _
  vectors := List.nil_sublist _

namespace Account

variable {kms : LocalKms} {e : Environment} {kek k c c' : Key} {a a' a₀ : Account}
  {capability : Capability} {known issued : List Capability} {calls : List ServiceCall}

/-- With a service that has its master key, the capability is sealed to the one key that the
    service keeps for the account, with a vector that was just handed out. -/
theorem Sealing.issuedTo {α : Type} {d : Dialogue α} {v : α} (h : a.Sealing calls capability)
    (hgives : d.Gives kms.responder e calls v) (hkek : kms.unwrap a.systemKey = .ok kek) :
    IssuedTo kek [capability] (handedOut calls) := by
  obtain ⟨before, kek', iv, k, rfl, hissue⟩ := h
  have hmem : ServiceCall.unwrap a.systemKey (.ok kek') ∈ d.calls kms.responder e :=
    hgives.1 ▸ List.mem_append_right _ List.mem_cons_self
  obtain rfl := Except.ok.inj (hkek.symm.trans (LocalKms.unwrap_of_mem_calls hmem))
  refine ⟨List.forall_mem_singleton.mpr ⟨iv, k, hissue⟩, ?_⟩
  rw [List.map_singleton, Capability.vector?_of_issue hissue, handedOut_append]
  exact (List.sublist_append_right _ [iv]).map some

/-- A value of an account: all that it has sealed under the key-encrypting key is the pair
    that it was created with and some capability that is known. What it has sealed besides
    is sealed under the client key. -/
structure Value (a₀ : Account) (known : List Capability) (a : Account) (c : Key) : Prop where
  continues : Continues a₀ a c
  userKey : ∃ k : Key, (k.withIv (ivOfNonce a.nonce)).wrap c = .ok a.userKey
  staff : ∀ capability, a.staffCapability = some capability → capability ∈ known

namespace Value

theorem mono {known' : List Capability} (h : Value a₀ known a c) (hsubset : known ⊆ known') :
    Value a₀ known' a c :=
  { h with staff := fun capability hstaff => hsubset (h.staff capability hstaff) }

/-- No operation seals anything under the key-encrypting key, save that staff is appointed. -/
theorem apply {op : Operation} (h : Value a₀ known a c) (happly : op.apply kms a c = some (a', c'))
    (hop : ∀ e credential, op ≠ .appointStaff e credential) : Value a₀ known a' c' where
  continues := h.continues.apply happly
  userKey := by
    rcases apply_eq_some h.continues.isWrapped happly with ⟨rfl, staff, rfl⟩ | ⟨k, hnew, -⟩
    · exact h.userKey
    · obtain ⟨userKey, mac, huserKey, -, rfl⟩ := withClientKey_eq_ok_iff.mp hnew
      exact ⟨k, huserKey⟩
  staff capability hcapability := by
    rcases staffCapability_of_apply h.continues.isWrapped happly with
      ⟨e, credential, _, rfl, -⟩ | ⟨-, hstaff⟩ | ⟨hstaff, -⟩
    · exact absurd rfl (hop e credential)
    · rw [hstaff] at hcapability
      cases hcapability
    · exact h.staff capability (hstaff ▸ hcapability)

end Value

/-- All that a deed can do: it issues one capability, and gives it to the account or to its
    holder; or it is an operation that issues nothing. -/
theorem cases_of_gives {d : Deed} (hwrapped : a.IsWrapped)
    (h : (d.dialogue a c).Gives kms.responder e calls ((a', c'), issued)) :
    (d.issues = true ∧ c' = c ∧ ∃ capability, issued = [capability] ∧
        a.Sealing calls capability ∧
        (a' = a ∨ a' = { a with staffCapability := some capability })) ∨
      (issued = [] ∧ ∃ op : Operation, op.apply kms a c = some (a', c') ∧
        ∀ e credential, op ≠ .appointStaff e credential) := by
  cases d with
  | grant gift =>
    obtain ⟨capability, _, _, hgrant, hvalue, rfl⟩ := Dialogue.gives_bind_iff.mp h
    obtain ⟨⟨⟩, rfl⟩ := Dialogue.gives_pure_iff.mp hvalue
    rw [List.append_nil]
    exact .inl ⟨rfl, rfl, capability, rfl, sealing_of_grantTo hgrant, .inl rfl⟩
  | appointStaff credential =>
    obtain ⟨a₁, _, _, happoint, hvalue, rfl⟩ := Dialogue.gives_bind_iff.mp h
    obtain ⟨⟨⟩, rfl⟩ := Dialogue.gives_pure_iff.mp hvalue
    obtain ⟨capability, rfl, hsealing⟩ := sealing_of_appointStaff happoint
    rw [List.append_nil]
    exact .inl ⟨rfl, rfl, capability, rfl, hsealing, .inr rfl⟩
  | replaceClientKey old new =>
    obtain ⟨a₁, hreplace, hvalue⟩ := Dialogue.gives_logged_bind_iff.mp h
    obtain ⟨⟨⟩, -⟩ := Dialogue.gives_pure_iff.mp hvalue
    refine .inr ⟨rfl, .replaceClientKey old c', ?_, by rintro _ _ ⟨⟩⟩
    rw [Operation.apply, hreplace]
    rfl
  | resetPassword id authorization password =>
    obtain ⟨s, _, _, hreset, hvalue, -⟩ := Dialogue.gives_bind_iff.mp h
    obtain ⟨⟨⟩, -⟩ := Dialogue.gives_pure_iff.mp hvalue
    refine .inr ⟨rfl, .resetPassword e id authorization password, ?_, by rintro _ _ ⟨⟩⟩
    rw [Operation.apply, hreset.2]
    rfl
  | dismissStaff =>
    obtain ⟨⟨⟩, -⟩ := Dialogue.gives_pure_iff.mp h
    exact .inr ⟨rfl, .dismissStaff, rfl, by rintro _ _ ⟨⟩⟩
  | reload =>
    have hreload : a.reloaded = some a := reloaded_of_isWrapped hwrapped
    rw [Deed.dialogue, hreload] at h
    obtain ⟨⟨⟩, -⟩ := Dialogue.gives_pure_iff.mp h
    refine .inr ⟨rfl, .reload, ?_, by rintro _ _ ⟨⟩⟩
    rw [Operation.apply, hreload]
    rfl

/-- What comes of a deed: the account goes on, and what is issued is sealed to its key, with
    vectors that were just handed out. -/
theorem Value.deed {d : Deed} (h : Value a₀ known a c) (hkek : kms.unwrap a₀.systemKey = .ok kek)
    (hgives : (d.dialogue a c).Gives kms.responder e calls ((a', c'), issued)) :
    Value a₀ (known ++ issued) a' c' ∧ IssuedTo kek issued (handedOut calls) ∧
      (d.issues = false → issued = []) := by
  rcases cases_of_gives h.continues.isWrapped hgives with
    ⟨hissues, rfl, capability, rfl, hsealing, ha'⟩ | ⟨rfl, op, happly, hop⟩
  · have hmore : Value a₀ (known ++ [capability]) a c' := h.mono (List.subset_append_left _ _)
    have hissued : IssuedTo kek [capability] (handedOut calls) :=
      hsealing.issuedTo hgives (h.continues.systemKey ▸ hkek)
    have hsilent : d.issues = false → [capability] = [] := by
      intro hnone
      cases hissues.symm.trans hnone
    rcases ha' with rfl | rfl
    · exact ⟨hmore, hissued, hsilent⟩
    · refine ⟨{ hmore with continues := ?_, staff := ?_ }, hissued, hsilent⟩
      · exact { h.continues with
          isWrapped := { h.continues.isWrapped with } }
      · rintro _ ⟨⟩
        exact List.mem_append_right _ List.mem_cons_self
  · rw [List.append_nil]
    exact ⟨h.apply happly hop, .nil kek _, fun _ => rfl⟩

end Account

end ChatKeys
