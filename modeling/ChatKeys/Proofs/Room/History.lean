/-
  ChatKeys.Proofs.Room.History

  What happens around a room: its keys are renewed, messages are sent, accounts join,
  and message keys are granted.

  A `History` is a room with all that came of it so far, and goes on by a `Step`.
  Message keys are granted to members, whose accounts may change before and after, or to
  passcodes; rooms and message keys may be stored and read back at any time.

    * `Kept` — what every history keeps: the service opens all message keys that there
      ever were, each message was sent under one of them, and each grant hands one over;
    * `Kept.run` — it stays so whatever happens from 1970 on (`Kept.apply`);
    * `Kept.exists_apply` — and whatever can be done succeeds; what comes of it is said step
      by step (`Step.exists_apply_renewMessageKey`, `Kept.exists_apply_grant` and the like).
-/
import ChatKeys.Proofs.Message.Sealing
import ChatKeys.Proofs.Room.Runs

namespace ChatKeys

/-! ## Message keys -/

namespace MessageKey

variable {kms : LocalKms} {e : Environment} {m : MessageKey} {k : Key} {capability : Capability}

/-- The message key survives being stored, and the service opens it to a key of the
    cipher. -/
structure IsKept (kms : LocalKms) (m : MessageKey) (k : Key) : Prop where
  isStorable : m.IsStorable
  unwrap : kms.unwrap m.key = .ok k
  isUsable : k.isUsable = true

theorem IsIssued.isKept (h : m.IsIssued kms e k) (he : 0 ≤ e.clock.ns) : m.IsKept kms k where
  isStorable := ⟨Key.isEncrypted_of_wrap (LocalKms.unwrap_eq_ok_iff.mp h.unwrap),
    h.issuedAt ▸ he⟩
  unwrap := h.unwrap
  isUsable := h.isUsable

/-- A grant to an account is sealed to the key that the service keeps for it. -/
theorem result_grantTo_eq_ok_iff {a : Account} :
    ((m.grantTo a).run kms.responder e).result = .ok capability ↔
      ∃ k kek, kms.unwrap m.key = .ok k ∧ kms.unwrap a.systemKey = .ok kek ∧
        Capability.issue kek (e.draw ivSize).1 k = .ok capability := by
  simp only [grantTo, unlock, LocalKms.result_unwrap_bind_eq_ok_iff,
    Account.result_grant_eq_ok_iff, exists_and_left]

/-- A grant to a passcode is sealed with the nonce of the message key as salt. -/
theorem result_grantToPasscode_eq_ok_iff {passcode : String} {kdf : KdfParams} :
    ((m.grantToPasscode passcode kdf).run kms.responder e).result = .ok capability ↔
      ∃ k, kms.unwrap m.key = .ok k ∧
        Capability.issueForPasscode (Bytes.ofString passcode) m.nonce kdf (e.draw ivSize).1 k
          = .ok capability := by
  simp only [grantToPasscode, unlock, LocalKms.result_unwrap_bind_eq_ok_iff,
    Dialogue.result_bind_of_run (LocalKms.run_nonce _ _), Dialogue.run_liftM, mapError_eq_ok_iff]

end MessageKey

namespace Room

/-! ## Histories -/

/-- An account of the service, and all that was done to it since it was created. -/
structure Member where
  origin : Account × Key
  operations : List Account.Operation
  account : Account
  clientKey : Key

/-- Who a message key is granted to: a member, by number, or whoever has a passcode. -/
inductive Recipient where
  | member (number : Nat)
  | passcode (passcode : String) (kdf : KdfParams)

/-- A message key that was granted. -/
structure KeyGrant where
  messageKey : MessageKey
  recipient : Recipient
  capability : Capability

/-- A message that was sent, the message key that was current, and what was sent. -/
structure Post where
  original : Message
  messageKey : MessageKey
  encrypted : Message

/-- A room with all that came of it so far. -/
structure History where
  room : Room
  /-- All message keys that the room has had. -/
  issued : List MessageKey
  /-- The message keys as they were issued, and as they were read back. -/
  copies : List MessageKey
  posts : List Post
  members : List Member
  granted : List KeyGrant

/-- The history of a room to which nothing happened yet. -/
def History.ofRoom (r : Room) : History := ⟨r, [], [], [], [], []⟩

/-- One more thing that happens. What asks the service does so in an environment of its
    own. -/
inductive Step where
  | operate (op : Operation)
  /-- A message key is stored and read back. -/
  | reloadKey (m : MessageKey)
  | send (e : Environment) (original : Message)
  | join (e : Environment) (password : String) (kdf : KdfParams)
  | operateMember (number : Nat) (op : Account.Operation)
  | grant (e : Environment) (m : MessageKey) (recipient : Recipient)

/-- The message key that an operation gives to a room. -/
def Operation.issued (r' : Room) : Operation → List MessageKey
  | renewMessageKey _ => r'.messageKey.toList
  | _ => []

/-- A capability for a message key, if the recipient can have one. -/
def Recipient.seal (kms : LocalKms) (e : Environment) (members : List Member) (m : MessageKey) :
    Recipient → Option Capability
  | member number => do
    let x ← members[number]?
    ((m.grantTo x.account).run kms.responder e).result.toOption
  | passcode text kdf => ((m.grantToPasscode text kdf).run kms.responder e).result.toOption

/-- Takes a step, if it succeeds. -/
def Step.apply (kms : LocalKms) (s : History) : Step → Option History
  | operate op => do
    let r ← op.apply kms s.room
    some { s with room := r, issued := op.issued r ++ s.issued, copies := op.issued r ++ s.copies }
  | reloadKey m =>
    if m ∈ s.copies then
      (MessageKey.codec.reload m).map fun m' => { s with copies := m' :: s.copies }
    else none
  | send e original => do
    let m ← s.room.messageKey
    let k ← (m.unlock.run kms.responder e).result.toOption
    let encrypted ← (original.encrypt m.id k).toOption
    some { s with posts := ⟨original, m, encrypted⟩ :: s.posts }
  | join e password kdf => do
    let origin ← ((Account.create password kdf).run kms.responder e).result.toOption
    some { s with members := s.members ++ [⟨origin, [], origin.1, origin.2⟩] }
  | operateMember number op => do
    let x ← s.members[number]?
    let (a, c) ← op.apply kms x.account x.clientKey
    some { s with members := s.members.set number ⟨x.origin, x.operations ++ [op], a, c⟩ }
  | grant e m recipient =>
    if m ∈ s.copies then
      (recipient.seal kms e s.members m).map fun capability =>
        { s with granted := ⟨m, recipient, capability⟩ :: s.granted }
    else none

/-- Whether there is such a recipient. -/
def Recipient.IsPresent (members : List Member) : Recipient → Prop
  | member number => number < members.length
  | passcode .. => True

/-- What the step needs is there: a current message key to send a message, a copy of the
    message key to be granted, and a member for whom the operation succeeds. -/
def Step.IsPossible (kms : LocalKms) (s : History) : Step → Prop
  | operate op => op.SinceEpoch
  | reloadKey m => m ∈ s.copies
  | send .. => s.room.messageKey.isSome = true
  | join .. => True
  | operateMember number op => ∃ x, s.members[number]? = some x ∧
      (op.apply kms x.account x.clientKey).isSome = true
  | grant _ m recipient => m ∈ s.copies ∧ recipient.IsPresent s.members

/-- If the step looks at the clock for a new message key, it is 1970 or later. -/
def Step.SinceEpoch : Step → Prop
  | operate op => op.SinceEpoch
  | _ => True

/-- Takes steps one after the other, as long as they succeed. -/
def History.run (kms : LocalKms) : List Step → History → Option History
  | [], s => some s
  | step :: steps, s => (step.apply kms s).bind (run kms steps)

/-! ## What all histories keep -/

/-- The account was created by the service, and is what became of it. -/
def Member.IsFaithful (kms : LocalKms) (x : Member) : Prop :=
  (∃ kek pair, Account.Hierarchy kms kek pair x.origin.1 x.origin.2) ∧
    Account.run kms x.operations x.origin = some (x.account, x.clientKey)

/-- The capability hands a key over: to the key that the service keeps for the member's
    account, or to the passcode. -/
def KeyGrant.Seals (kms : LocalKms) (members : List Member) (g : KeyGrant) (k : Key) : Prop :=
  match g.recipient with
  | .member number => ∃ x kek iv, members[number]? = some x ∧
      kms.unwrap x.origin.1.systemKey = .ok kek ∧ Capability.issue kek iv k = .ok g.capability
  | .passcode text kdf => ∃ iv, Capability.issueForPasscode (Bytes.ofString text)
      g.messageKey.nonce kdf iv k = .ok g.capability

/-- The service opens all message keys, every message was sent under one of them, and
    every grant hands one over. -/
structure Kept (kms : LocalKms) (s : History) : Prop where
  room : ∃ managerKey pair, ∃ secret : KeyBytes, Hierarchy kms managerKey pair s.room ∧
    pair.privateKey.material = .plain secret
  current : ∀ m, s.room.messageKey = some m → m ∈ s.issued
  issued : ∀ m ∈ s.issued, ∃ k, m.IsKept kms k
  copies : s.copies ⊆ s.issued
  posts : ∀ x ∈ s.posts, x.messageKey ∈ s.issued ∧ ∃ k, kms.unwrap x.messageKey.key = .ok k ∧
    x.original.encrypt x.messageKey.id k = .ok x.encrypted
  members : ∀ x ∈ s.members, x.IsFaithful kms
  granted : ∀ g ∈ s.granted, g.messageKey ∈ s.issued ∧ ∃ k, kms.unwrap g.messageKey.key = .ok k ∧
    g.Seals kms s.members k

variable {kms : LocalKms} {s s' : History} {step : Step} {steps : List Step} {op : Operation}
  {r r' : Room} {managerKey k : Key} {pair : KeyPair} {m : MessageKey} {e : Environment}
  {members members' : List Member} {g : KeyGrant}

theorem History.run_cons (h : step.apply kms s = some s') (steps : List Step) :
    History.run kms (step :: steps) s = History.run kms steps s' := by
  rw [History.run, h, Option.bind_some]

/-! ## Single steps -/

namespace Step

variable {origin : Account × Key} {number : Nat} {x : Member} {change : Account.Operation}
  {original : Message} {password : String} {kdf : KdfParams} {recipient : Recipient}

theorem apply_operate_eq_some_iff :
    (operate op).apply kms s = some s' ↔
      ∃ r, op.apply kms s.room = some r ∧ s' = { s with
        room := r, issued := op.issued r ++ s.issued, copies := op.issued r ++ s.copies } := by
  simp only [apply, Option.bind_eq_bind, Option.bind_eq_some_iff, Option.some.injEq, @eq_comm _ s']

theorem apply_reloadKey_eq_some_iff :
    (reloadKey m).apply kms s = some s' ↔
      m ∈ s.copies ∧ ∃ m', MessageKey.codec.reload m = some m' ∧
        s' = { s with copies := m' :: s.copies } := by
  simp only [apply, Option.ite_none_right_eq_some, Option.map_eq_some_iff, @eq_comm _ s']

theorem apply_send_eq_some_iff :
    (send e original).apply kms s = some s' ↔
      ∃ m k encrypted, s.room.messageKey = some m ∧ kms.unwrap m.key = .ok k ∧
        original.encrypt m.id k = .ok encrypted ∧
        s' = { s with posts := ⟨original, m, encrypted⟩ :: s.posts } := by
  simp only [apply, Option.bind_eq_bind, Option.bind_eq_some_iff, Option.some.injEq,
    toOption_eq_some_iff, MessageKey.unlock, LocalKms.result_unwrap_eq_ok_iff, exists_and_left,
    @eq_comm _ s']

theorem apply_join_eq_some_iff :
    (join e password kdf).apply kms s = some s' ↔
      ∃ origin, ((Account.create password kdf).run kms.responder e).result = .ok origin ∧
        s' = { s with members := s.members ++ [⟨origin, [], origin.1, origin.2⟩] } := by
  simp only [apply, Option.bind_eq_bind, Option.bind_eq_some_iff, Option.some.injEq,
    toOption_eq_some_iff, @eq_comm _ s']

theorem apply_operateMember_eq_some_iff :
    (operateMember number change).apply kms s = some s' ↔
      ∃ x a c, s.members[number]? = some x ∧
        change.apply kms x.account x.clientKey = some (a, c) ∧
        s' = { s with
          members := s.members.set number ⟨x.origin, x.operations ++ [change], a, c⟩ } := by
  simp only [apply, Option.bind_eq_bind, Option.bind_eq_some_iff, Option.some.injEq, Prod.exists,
    exists_and_left, @eq_comm _ s']

theorem apply_grant_eq_some_iff :
    (grant e m recipient).apply kms s = some s' ↔
      m ∈ s.copies ∧ ∃ capability, recipient.seal kms e s.members m = some capability ∧
        s' = { s with granted := ⟨m, recipient, capability⟩ :: s.granted } := by
  simp only [apply, Option.ite_none_right_eq_some, Option.map_eq_some_iff, @eq_comm _ s']

/-- The message key can be renewed, and the new one has the name of its environment. -/
theorem exists_apply_renewMessageKey (kms : LocalKms) (s : History) (e : Environment) :
    ∃ m, m.id = MessageKey.idIn e ∧ (operate (.renewMessageKey e)).apply kms s
      = some { s with
          room := { s.room with messageKey := some m }
          issued := m :: s.issued
          copies := m :: s.copies } := by
  obtain ⟨m, k, hrenew, hissued, -⟩ := s.room.exists_issued kms e
  have hoperation : (Operation.renewMessageKey e).apply kms s.room
      = some { s.room with messageKey := some m } := toOption_eq_some_iff.mpr hrenew
  exact ⟨m, hissued.id, apply_operate_eq_some_iff.mpr ⟨_, hoperation, rfl⟩⟩

/-- An account can always join. -/
theorem exists_apply_join (kms : LocalKms) (s : History) (e : Environment) (password : String)
    (kdf : KdfParams) :
    ∃ a c, (join e password kdf).apply kms s
      = some { s with members := s.members ++ [⟨(a, c), [], a, c⟩] } := by
  obtain ⟨a, -, -, hcreate, -⟩ := Account.exists_create kms e password kdf
  exact ⟨a, _, apply_join_eq_some_iff.mpr ⟨_, hcreate, rfl⟩⟩

end Step

/-! ## What a step relies on -/

theorem Member.IsFaithful.continues {x : Member} (h : x.IsFaithful kms) :
    Account.Continues x.origin.1 x.account x.clientKey := by
  obtain ⟨⟨kek, pair, hk⟩, hrun⟩ := h
  exact hk.continues.run hrun

/-- A grant stays what it is as long as no member is replaced by another one. -/
theorem KeyGrant.Seals.mono (h : g.Seals kms members k)
    (hmembers : ∀ (number : Nat) x, members[number]? = some x →
      ∃ x', members'[number]? = some x' ∧ x'.origin = x.origin) : g.Seals kms members' k := by
  obtain ⟨messageKey, recipient, capability⟩ := g
  cases recipient with
  | member number =>
    obtain ⟨x, kek, iv, hx, hsystem, hissue⟩ := h
    obtain ⟨x', hx', horigin⟩ := hmembers number x hx
    exact ⟨x', kek, iv, hx', horigin ▸ hsystem, hissue⟩
  | passcode text kdf => exact h

/-- Whoever it is for, a capability hands the key over that the service opens. -/
theorem Recipient.seals_of_seal {recipient : Recipient} {capability : Capability}
    (hmembers : ∀ x ∈ members, x.IsFaithful kms)
    (h : recipient.seal kms e members m = some capability) :
    ∃ k, kms.unwrap m.key = .ok k ∧
      (⟨m, recipient, capability⟩ : KeyGrant).Seals kms members k := by
  cases recipient with
  | member number =>
    simp only [Recipient.seal, Option.bind_eq_bind, Option.bind_eq_some_iff, toOption_eq_some_iff,
      MessageKey.result_grantTo_eq_ok_iff] at h
    obtain ⟨x, hx, k, kek, hk, hkek, hissue⟩ := h
    rw [(hmembers x (List.mem_of_getElem? hx)).continues.systemKey] at hkek
    exact ⟨k, hk, x, kek, _, hx, hkek, hissue⟩
  | passcode text kdf =>
    simp only [Recipient.seal, toOption_eq_some_iff, MessageKey.result_grantToPasscode_eq_ok_iff]
      at h
    obtain ⟨k, hk, hissue⟩ := h
    exact ⟨k, hk, _, hissue⟩

/-- From 1970 on an operation gives no message key but one that is kept. -/
theorem Operation.isKept_of_mem_issued (hop : op.SinceEpoch) (h : op.apply kms r = some r')
    (hm : m ∈ op.issued r') : ∃ k, m.IsKept kms k := by
  cases op with
  | renewManagerKey e => cases hm
  | renewMessageKey e =>
    obtain ⟨m', k, hrenew, hissued, -⟩ := r.exists_issued kms e
    rw [Operation.apply, toOption_eq_some_iff, hrenew] at h
    obtain rfl := Except.ok.inj h
    obtain rfl := List.mem_singleton.mp hm
    exact ⟨k, hissued.isKept hop⟩
  | reload => cases hm

/-- The current message key is one that the operation gives, or stays what it was. -/
theorem Operation.Changes.current (h : op.Changes r r') (hm : r'.messageKey = some m) :
    m ∈ op.issued r' ∨ r.messageKey = some m := by
  cases op with
  | renewManagerKey e =>
    obtain ⟨mac, keyEncryptingKey, iv, material, rfl⟩ := h
    exact .inr hm
  | renewMessageKey e => exact .inl (Option.mem_toList.mpr hm)
  | reload =>
    obtain rfl := h
    exact .inr hm

/-- A new room has no message key. -/
theorem messageKey_of_create {name : String}
    (h : ((create name).run kms.responder e).result = .ok r) : r.messageKey = none := by
  simp only [create, Dialogue.run_bind_eq_ok_iff, Dialogue.run_note, Dialogue.run_pure] at h
  obtain ⟨_, -, _, -, _, -, _, -, _, -, _, -, _, -, _, -, _, -, h⟩ := h
  cases h
  rfl

namespace Kept

/-- A new room. -/
theorem ofRoom {secret : KeyBytes} (h : Hierarchy kms managerKey pair r)
    (hpair : pair.privateKey.material = .plain secret) (hr : r.messageKey = none) :
    Kept kms (.ofRoom r) where
  room := ⟨managerKey, pair, secret, h, hpair⟩
  current m hm := by
    have hsome : r.messageKey = some m := hm
    rw [hr] at hsome
    cases hsome
  issued := List.forall_mem_nil _
  copies := List.nil_subset _
  posts := List.forall_mem_nil _
  members := List.forall_mem_nil _
  granted := List.forall_mem_nil _

theorem operate (hs : Kept kms s) (hop : op.SinceEpoch) (h : op.apply kms s.room = some r') :
    Kept kms { s with
      room := r', issued := op.issued r' ++ s.issued, copies := op.issued r' ++ s.copies } := by
  obtain ⟨managerKey, pair, secret, hroom, hpair⟩ := hs.room
  obtain ⟨r₁, managerKey', happly, hroom', hchanges, -⟩ := hroom.exists_apply hpair hop
  obtain rfl : r' = r₁ := Option.some.inj (h.symm.trans happly)
  have hold : s.issued ⊆ op.issued r' ++ s.issued := List.subset_append_right _ _
  exact {
    room := ⟨managerKey', pair, secret, hroom', hpair⟩
    current := fun m hm => List.mem_append.mpr <|
      (hchanges.current hm).imp_right (hs.current m)
    issued := fun m hm => (List.mem_append.mp hm).elim
      (Operation.isKept_of_mem_issued hop h) (hs.issued m)
    copies := List.append_subset.mpr
      ⟨List.subset_append_left _ _, List.Subset.trans hs.copies hold⟩
    posts := fun x hx => ⟨hold (hs.posts x hx).1, (hs.posts x hx).2⟩
    members := hs.members
    granted := fun g hg => ⟨hold (hs.granted g hg).1, (hs.granted g hg).2⟩ }

/-- What is read back of a message key is the message key. -/
theorem reload_eq (hs : Kept kms s) (hm : m ∈ s.copies) :
    MessageKey.codec.reload m = some m := by
  obtain ⟨k, hkept⟩ := hs.issued m (hs.copies hm)
  exact (MessageKey.restores hkept.isStorable).reload_eq

theorem reloadKey (hs : Kept kms s) (hm : m ∈ s.copies) :
    Kept kms { s with copies := m :: s.copies } :=
  { hs with copies := List.cons_subset.mpr ⟨hs.copies hm, hs.copies⟩ }

theorem send {original encrypted : Message} (hs : Kept kms s) (hm : s.room.messageKey = some m)
    (hk : kms.unwrap m.key = .ok k) (hencrypt : original.encrypt m.id k = .ok encrypted) :
    Kept kms { s with posts := ⟨original, m, encrypted⟩ :: s.posts } :=
  { hs with
    posts := List.forall_mem_cons.mpr ⟨⟨hs.current m hm, k, hk, hencrypt⟩, hs.posts⟩ }

theorem join {origin : Account × Key} {password : String} {kdf : KdfParams} (hs : Kept kms s)
    (h : ((Account.create password kdf).run kms.responder e).result = .ok origin) :
    Kept kms { s with members := s.members ++ [⟨origin, [], origin.1, origin.2⟩] } := by
  obtain ⟨a, kek, pair, hcreate, -, hk⟩ := Account.exists_create kms e password kdf
  obtain rfl : (a, a.clientKey password) = origin := Except.ok.inj (hcreate.symm.trans h)
  refine { hs with members := ?_, granted := ?_ }
  · intro x hx
    rcases List.mem_append.mp hx with hold | hnew
    · exact hs.members x hold
    · obtain rfl := List.mem_singleton.mp hnew
      exact ⟨⟨kek, _, hk⟩, rfl⟩
  · intro g hg
    obtain ⟨hissued, k, hk, hseals⟩ := hs.granted g hg
    refine ⟨hissued, k, hk, hseals.mono fun number x hx => ⟨x, ?_, rfl⟩⟩
    obtain ⟨hlt, -⟩ := List.getElem?_eq_some_iff.mp hx
    rw [List.getElem?_append_left hlt, hx]

theorem operateMember {number : Nat} {x : Member} {change : Account.Operation} {a : Account}
    {c : Key} (hs : Kept kms s) (hx : s.members[number]? = some x)
    (h : change.apply kms x.account x.clientKey = some (a, c)) :
    Kept kms { s with
      members := s.members.set number ⟨x.origin, x.operations ++ [change], a, c⟩ } := by
  obtain ⟨horigin, hrun⟩ := hs.members x (List.mem_of_getElem? hx)
  have hrun' : Account.run kms (x.operations ++ [change]) x.origin = some (a, c) := by
    rw [Account.run_append hrun, Account.run, h]
    rfl
  refine { hs with members := ?_, granted := ?_ }
  · intro y hy
    rcases List.mem_or_eq_of_mem_set hy with hold | rfl
    · exact hs.members y hold
    · exact ⟨horigin, hrun'⟩
  · intro g hg
    obtain ⟨hissued, k, hk, hseals⟩ := hs.granted g hg
    refine ⟨hissued, k, hk, hseals.mono fun other y hy => ?_⟩
    obtain ⟨hlt, -⟩ := List.getElem?_eq_some_iff.mp hy
    by_cases hother : other = number
    · subst hother
      obtain rfl := Option.some.inj (hx.symm.trans hy)
      exact ⟨_, List.getElem?_set_self hlt, rfl⟩
    · exact ⟨y, (List.getElem?_set_ne (Ne.symm hother)).trans hy, rfl⟩

theorem grant {recipient : Recipient} {capability : Capability} (hs : Kept kms s)
    (hm : m ∈ s.copies) (h : recipient.seal kms e s.members m = some capability) :
    Kept kms { s with granted := ⟨m, recipient, capability⟩ :: s.granted } :=
  { hs with
    granted := List.forall_mem_cons.mpr
      ⟨⟨hs.copies hm, Recipient.seals_of_seal hs.members h⟩, hs.granted⟩ }

/-! ## Runs -/

/-- Whatever happens, all this stays so. -/
theorem apply (hs : Kept kms s) (h : step.apply kms s = some s') (hstep : step.SinceEpoch) :
    Kept kms s' := by
  cases step with
  | operate op =>
    obtain ⟨r, hr, rfl⟩ := Step.apply_operate_eq_some_iff.mp h
    exact hs.operate hstep hr
  | reloadKey m =>
    obtain ⟨hm, m', hreload, rfl⟩ := Step.apply_reloadKey_eq_some_iff.mp h
    obtain rfl := Option.some.inj ((hs.reload_eq hm).symm.trans hreload)
    exact hs.reloadKey hm
  | send e original =>
    obtain ⟨m, k, encrypted, hm, hk, hencrypt, rfl⟩ := Step.apply_send_eq_some_iff.mp h
    exact hs.send hm hk hencrypt
  | join e password kdf =>
    obtain ⟨origin, hcreate, rfl⟩ := Step.apply_join_eq_some_iff.mp h
    exact hs.join hcreate
  | operateMember number op =>
    obtain ⟨x, a, c, hx, hop, rfl⟩ := Step.apply_operateMember_eq_some_iff.mp h
    exact hs.operateMember hx hop
  | grant e m recipient =>
    obtain ⟨hm, capability, hseal, rfl⟩ := Step.apply_grant_eq_some_iff.mp h
    exact hs.grant hm hseal

theorem run (hs : Kept kms s) (hsteps : ∀ step ∈ steps, step.SinceEpoch)
    (h : History.run kms steps s = some s') : Kept kms s' := by
  induction steps generalizing s with
  | nil =>
    obtain rfl := Option.some.inj h
    exact hs
  | cons step steps ih =>
    obtain ⟨hstep, hrest⟩ := List.forall_mem_cons.mp hsteps
    obtain ⟨s₁, happly, hlater⟩ := Option.bind_eq_some_iff.mp h
    exact ih (hs.apply happly hstep) hrest hlater

/-! ## Progress -/

/-- A kept message key can be sealed to any recipient. -/
theorem exists_seal {recipient : Recipient} (hs : Kept kms s) (hm : m ∈ s.copies)
    (h : recipient.IsPresent s.members) (e : Environment) :
    ∃ capability, recipient.seal kms e s.members m = some capability := by
  obtain ⟨k, hkept⟩ := hs.issued m (hs.copies hm)
  obtain ⟨secret, hsecret⟩ := Key.isUsable_iff.mp hkept.isUsable
  have hplain : k.isEncrypted = false := Key.not_isEncrypted_of_cipherSecret hsecret
  have hiv : (e.draw ivSize).1.length = ivSize := Environment.length_draw ivSize e
  cases recipient with
  | member number =>
    let x := s.members[number]
    obtain ⟨⟨kek, pair, hk⟩, hrun⟩ := hs.members x (List.getElem_mem h)
    have hsystem : kms.unwrap x.account.systemKey = .ok kek := by
      rw [(hk.continues.run hrun).systemKey]
      exact hk.systemKey
    obtain ⟨capability, hissue⟩ := Capability.exists_issue hk.isUsable hiv hplain
    refine ⟨capability, ?_⟩
    rw [Recipient.seal, List.getElem?_eq_getElem h]
    exact toOption_eq_some_iff.mpr
      (MessageKey.result_grantTo_eq_ok_iff.mpr ⟨k, kek, hkept.unwrap, hsystem, hissue⟩)
  | passcode text kdf =>
    obtain ⟨capability, hissue⟩ : ∃ capability, Capability.issueForPasscode (Bytes.ofString text)
        m.nonce kdf (e.draw ivSize).1 k = .ok capability :=
      Capability.exists_issue rfl hiv hplain
    exact ⟨capability, toOption_eq_some_iff.mpr
      (MessageKey.result_grantToPasscode_eq_ok_iff.mpr ⟨k, hkept.unwrap, hissue⟩)⟩

/-- A room that is stored is read back as it was. -/
theorem apply_reload (hs : Kept kms s) : (Step.operate .reload).apply kms s = some s := by
  obtain ⟨managerKey, pair, secret, hroom, -⟩ := hs.room
  have hreload : Operation.reload.apply kms s.room = some s.room :=
    (restores hroom.isStorable).reload_eq
  exact Step.apply_operate_eq_some_iff.mpr ⟨s.room, hreload, rfl⟩

/-- So is a message key. -/
theorem apply_reloadKey (hs : Kept kms s) (hm : m ∈ s.copies) :
    (Step.reloadKey m).apply kms s = some { s with copies := m :: s.copies } :=
  Step.apply_reloadKey_eq_some_iff.mpr ⟨hm, m, hs.reload_eq hm, rfl⟩

/-- Any message can be sent under the current message key. -/
theorem exists_apply_send (hs : Kept kms s) (hm : s.room.messageKey = some m) (e : Environment)
    (original : Message) :
    ∃ encrypted, (Step.send e original).apply kms s
      = some { s with posts := ⟨original, m, encrypted⟩ :: s.posts } := by
  obtain ⟨k, hkept⟩ := hs.issued m (hs.current m hm)
  obtain ⟨c, -, hencrypt⟩ := Message.encrypt_of_isUsable hkept.isUsable original m.id
  exact ⟨_, Step.apply_send_eq_some_iff.mpr ⟨m, k, _, hm, hkept.unwrap, hencrypt, rfl⟩⟩

/-- A message key can be granted to anybody, in the value that was read back too. -/
theorem exists_apply_grant {recipient : Recipient} (hs : Kept kms s) (hm : m ∈ s.copies)
    (h : recipient.IsPresent s.members) (e : Environment) :
    ∃ capability, (Step.grant e m recipient).apply kms s
      = some { s with granted := ⟨m, recipient, capability⟩ :: s.granted } := by
  obtain ⟨capability, hseal⟩ := hs.exists_seal hm h e
  exact ⟨capability, Step.apply_grant_eq_some_iff.mpr ⟨hm, capability, hseal, rfl⟩⟩

/-- Whatever can be done succeeds. -/
theorem exists_apply (hs : Kept kms s) (h : step.IsPossible kms s) :
    ∃ s', step.apply kms s = some s' := by
  cases step with
  | operate op =>
    obtain ⟨managerKey, pair, secret, hroom, hpair⟩ := hs.room
    obtain ⟨r, -, hop, -⟩ := hroom.exists_apply hpair h
    exact ⟨_, Step.apply_operate_eq_some_iff.mpr ⟨r, hop, rfl⟩⟩
  | reloadKey m => exact ⟨_, hs.apply_reloadKey h⟩
  | send e original =>
    obtain ⟨m, hm⟩ := Option.isSome_iff_exists.mp h
    obtain ⟨_, hsend⟩ := hs.exists_apply_send hm e original
    exact ⟨_, hsend⟩
  | join e password kdf =>
    obtain ⟨_, _, hjoin⟩ := Step.exists_apply_join kms s e password kdf
    exact ⟨_, hjoin⟩
  | operateMember number op =>
    obtain ⟨x, hx, hop⟩ := h
    obtain ⟨⟨a, c⟩, hop⟩ := Option.isSome_iff_exists.mp hop
    exact ⟨_, Step.apply_operateMember_eq_some_iff.mpr ⟨x, a, c, hx, hop, rfl⟩⟩
  | grant e m recipient =>
    obtain ⟨_, hgrant⟩ := hs.exists_apply_grant h.1 h.2 e
    exact ⟨_, hgrant⟩

end Kept

end Room

end ChatKeys
