/-
  ChatKeys.Proofs.Message.Reading

  Who can read which messages of a room.

  A reader holds message keys that were granted, opens them, and puts them on a key ring
  under their names (`Room.keyRing`).

    * `KeyRing.mem_of_ofList`, `KeyRing.ofList_eq_none_iff` — what is on a key ring;
    * `Room.KeyGrant.redeem_eq_ok` — a grant opens to the key that the service keeps,
      whatever became of the account that it was for;
    * `Room.Kept.decrypt_of_held`, `Room.Kept.decrypt_of_not_held` — so with the keys at
      hand exactly the messages that were sent under them are read;
    * `Room.history_stays_readable` — this holds at any time of any history.
-/
import Mathlib.Data.List.Nodup
import ChatKeys.Proofs.Room.History

namespace ChatKeys

/-! ## Key rings -/

namespace KeyRing

variable {entries : List (KeyId × Key)} {id : KeyId} {key : Key}

theorem insert_apply (keys : KeyRing) (id other : KeyId) (key : Key) :
    keys.insert id key other = if other = id then some key else keys other := rfl

theorem ofList_concat (entries : List (KeyId × Key)) (entry : KeyId × Key) :
    ofList (entries ++ [entry]) = (ofList entries).insert entry.1 entry.2 := by
  rw [ofList, List.foldl_append]
  rfl

/-- A key that is on the ring is one of the list, under its name. -/
theorem mem_of_ofList (h : ofList entries id = some key) : (id, key) ∈ entries := by
  -- From the back, since of two keys with the same name the later one counts.
  induction entries using List.reverseRecOn with
  | nil => cases h
  | append_singleton entries entry ih =>
    rw [ofList_concat, insert_apply] at h
    split at h
    · next hid =>
      obtain rfl := Option.some.inj h
      rw [hid]
      exact List.mem_append_right _ (List.mem_singleton_self _)
    · exact List.mem_append_left _ (ih h)

/-- A name is missing on the ring exactly if no key of the list has it. -/
theorem ofList_eq_none_iff : ofList entries id = none ↔ ∀ entry ∈ entries, entry.1 ≠ id := by
  induction entries using List.reverseRecOn with
  | nil => simp [ofList, empty]
  | append_singleton entries entry ih =>
    rw [ofList_concat, insert_apply, List.forall_mem_append, List.forall_mem_singleton]
    split
    · next hid => simp [hid]
    · next hid => rw [ih, and_iff_left (Ne.symm hid)]

end KeyRing

namespace Room

variable {kms : LocalKms} {s : History} {members : List Member} {held : List KeyGrant}
  {g : KeyGrant} {k : Key} {x : Post} {keys : KeyRing}

/-! ## Opening grants -/

/-- The key of a grant: with the member's client key, or with the passcode. -/
def KeyGrant.redeem (members : List Member) (g : KeyGrant) : Except Error Key :=
  match g.recipient with
  | .member number =>
    match members[number]? with
    | some x => (x.account.redeemGrant x.clientKey g.capability).result
    | none => .error .accessDenied
  | .passcode text kdf => g.messageKey.redeemPasscodeGrant g.capability text kdf

/-- The keys of grants, under the names of the message keys. -/
def keyRing (members : List Member) (held : List KeyGrant) : Except Error KeyRing := do
  let entries ← held.mapM fun g => do return (g.messageKey.id, ← g.redeem members)
  return .ofList entries

/-- The grant is for an account that an impostor was met at. -/
def KeyGrant.MeetsImpostor (kms : LocalKms) (members : List Member) (g : KeyGrant) : Prop :=
  ∃ number x, g.recipient = .member number ∧ members[number]? = some x ∧
    Account.MeetsImpostor kms x.operations x.origin

/-- A grant opens to the key that it was sealed for. -/
theorem KeyGrant.redeem_eq_ok (hmembers : ∀ x ∈ members, x.IsFaithful kms)
    (h : g.Seals kms members k) (himpostor : ¬ g.MeetsImpostor kms members) :
    g.redeem members = .ok k.bare := by
  obtain ⟨messageKey, recipient, capability⟩ := g
  cases recipient with
  | member number =>
    obtain ⟨x, kek, iv, hx, hsystem, hissue⟩ := h
    obtain ⟨⟨kek', pair, hk⟩, hrun⟩ := hmembers x (List.mem_of_getElem? hx)
    obtain rfl := Except.ok.inj (hsystem.symm.trans hk.systemKey)
    rcases hk.run hrun with hend | hmet
    · simp only [KeyGrant.redeem, hx]
      exact hend.redeemGrant hissue
    · exact absurd ⟨number, x, rfl, hx, hmet⟩ himpostor
  | passcode text kdf =>
    obtain ⟨iv, hissue⟩ := h
    exact Capability.redeem_issue hissue rfl

/-- Unless an impostor was met, all grants open, each to the key that it hands over: the
    names on the ring are those of the keys that were granted. -/
theorem Kept.exists_keyRing (hs : Kept kms s) (hheld : held ⊆ s.granted)
    (himpostor : ¬ ∃ g ∈ held, g.MeetsImpostor kms s.members) :
    ∃ keys, keyRing s.members held = .ok keys ∧
      (∀ id, keys id = none ↔ ∀ g ∈ held, g.messageKey.id ≠ id) ∧
      ∀ id key, keys id = some key → ∃ g ∈ held, g.messageKey.id = id ∧
        ∃ k, kms.unwrap g.messageKey.key = .ok k ∧ key = k.bare := by
  have hopens : ∀ g, ∃ k, g ∈ held →
      kms.unwrap g.messageKey.key = .ok k ∧ g.redeem s.members = .ok k.bare := by
    intro g
    by_cases hg : g ∈ held
    · obtain ⟨-, k, hk, hseals⟩ := hs.granted g (hheld hg)
      have hnot : ¬ g.MeetsImpostor kms s.members := fun hmet => himpostor ⟨g, hg, hmet⟩
      exact ⟨k, fun _ => ⟨hk, KeyGrant.redeem_eq_ok hs.members hseals hnot⟩⟩
    · exact ⟨kms.master, fun h => absurd h hg⟩
  choose opened hopened using hopens
  let entries := held.map fun g => (g.messageKey.id, (opened g).bare)
  have hentries : held.mapM (fun g => do return (g.messageKey.id, ← g.redeem s.members))
      = .ok entries := by
    refine mapM_eq_ok fun g hg => ?_
    rw [(hopened g hg).2]
    rfl
  refine ⟨.ofList entries, ?_, ?_, ?_⟩
  · rw [keyRing, hentries]
    rfl
  · intro id
    rw [KeyRing.ofList_eq_none_iff, List.forall_mem_map]
  · intro id key hkey
    obtain ⟨g, hg, hentry⟩ := List.mem_map.mp (KeyRing.mem_of_ofList hkey)
    obtain ⟨hid, hbare⟩ := Prod.mk.inj hentry
    exact ⟨g, hg, hid, opened g, (hopened g hg).1, hbare.symm⟩

/-! ## Reading messages -/

/-- What was sent is sealed under the message key of its time. -/
theorem Kept.exists_sealed (hs : Kept kms s) (hx : x ∈ s.posts)
    (hk : kms.unwrap x.messageKey.key = .ok k) :
    ∃ c, k.sealContent x.original.nonceMaterial x.original.recordBytes x.original.associatedData
        = .ok c ∧
      x.encrypted = x.original.withSealed (.v1 x.messageKey.id) c := by
  obtain ⟨hissued, k', hk', hencrypt⟩ := hs.posts x hx
  obtain rfl := Except.ok.inj (hk.symm.trans hk')
  obtain ⟨k', hkept⟩ := hs.issued x.messageKey hissued
  obtain rfl := Except.ok.inj (hk.symm.trans hkept.unwrap)
  obtain ⟨c, hseal, hencrypt'⟩ :=
    Message.encrypt_of_isUsable hkept.isUsable x.original x.messageKey.id
  exact ⟨c, hseal, Except.ok.inj (hencrypt.symm.trans hencrypt')⟩

/-- A message is read with the key that it was sent under. -/
theorem Kept.decrypt_of_held (hs : Kept kms s) (hx : x ∈ s.posts)
    (hcut : x.original.truncated = false) (hk : kms.unwrap x.messageKey.key = .ok k)
    (hkeys : keys x.messageKey.id = some k.bare) (level : PrivilegeLevel) :
    (x.encrypted.decrypt keys level).result = .ok { x.original with
      sender := x.original.sender.withoutAddress
      encryptionKeyId := some (.v1 x.messageKey.id) } := by
  obtain ⟨c, hseal, hencrypted⟩ := hs.exists_sealed hx hk
  -- Vector and context, which a grant leaves out, are of no account for messages.
  have hbare : k.bare.sealContent x.original.nonceMaterial x.original.recordBytes
      x.original.associatedData = .ok c := by
    rw [← hseal, Key.sealContent, Key.sealContent, Key.cipherSecret_bare]
  rw [hencrypted, Message.result_decrypt_withSealed hcut hbare hkeys,
    Message.withPlaintext_recordBytes_v1]
  rfl

/-- Without the key there is no reading. -/
theorem Kept.decrypt_of_not_held (hs : Kept kms s) (hx : x ∈ s.posts)
    (hcut : x.original.truncated = false) (hkeys : keys x.messageKey.id = none)
    (level : PrivilegeLevel) :
    (x.encrypted.decrypt keys level).result = .error .accessDenied := by
  obtain ⟨-, k, hk, -⟩ := hs.posts x hx
  obtain ⟨c, -, hencrypted⟩ := hs.exists_sealed hx hk
  have hsent : (x.original.withSealed (.v1 x.messageKey.id) c).truncated = false := hcut
  rw [hencrypted, Message.result_decrypt_of_unknown rfl hsent hkeys]

/-- Creating a room gives one. Whatever happens then from 1970 on, whatever can be done
    succeeds: keys are renewed, messages are sent under the current message key, and
    message keys are granted, to members and to passcodes.

    At any time of such a history whose message keys have different names, let a reader
    hold some of the grants, made at any time before. Unless an impostor was met at an
    account of theirs, all of them open, with the client keys of this time and with the
    passcodes that they were made for. With the keys on a ring, a message is shown as it
    was sent, without its sender's address, if it was sent under one of the keys, and is
    denied otherwise. -/
theorem history_stays_readable (kms : LocalKms) (e : Environment) (name : String) :
    ∃ r₀, ((create name).run kms.responder e).result = .ok r₀ ∧
      ∀ steps s, (∀ step ∈ steps, step.SinceEpoch) → History.run kms steps (.ofRoom r₀) = some s →
        (∀ step : Step, step.IsPossible kms s → ∃ s', step.apply kms s = some s') ∧
        (∀ x ∈ s.posts, x.messageKey ∈ s.issued ∧
          x.encrypted.encryptionKeyId = some (.v1 x.messageKey.id)) ∧
        (∀ g ∈ s.granted, g.messageKey ∈ s.issued) ∧
        ((s.issued.map MessageKey.id).Nodup → ∀ held, held ⊆ s.granted →
          (∃ g ∈ held, g.MeetsImpostor kms s.members) ∨
          ∃ keys, keyRing s.members held = .ok keys ∧
            ∀ x ∈ s.posts, x.original.truncated = false → ∀ level,
              ((∃ g ∈ held, g.messageKey.id = x.messageKey.id) →
                (x.encrypted.decrypt keys level).result = .ok { x.original with
                  sender := x.original.sender.withoutAddress
                  encryptionKeyId := some (.v1 x.messageKey.id) }) ∧
              ((∀ g ∈ held, g.messageKey.id ≠ x.messageKey.id) →
                (x.encrypted.decrypt keys level).result = .error .accessDenied)) := by
  obtain ⟨r₀, managerKey, secret, hcreate, -, -, hroom⟩ := exists_create kms e name
  refine ⟨r₀, hcreate, ?_⟩
  intro steps s hsteps hrun
  have hstart : Kept kms (.ofRoom r₀) := .ofRoom hroom rfl (messageKey_of_create hcreate)
  have hs : Kept kms s := hstart.run hsteps hrun
  refine ⟨fun step => hs.exists_apply, ?_, fun g hg => (hs.granted g hg).1, ?_⟩
  · intro x hx
    obtain ⟨hissued, k, hk, -⟩ := hs.posts x hx
    obtain ⟨c, -, hencrypted⟩ := hs.exists_sealed hx hk
    rw [hencrypted]
    exact ⟨hissued, rfl⟩
  · intro hnames held hheld
    by_cases himpostor : ∃ g ∈ held, g.MeetsImpostor kms s.members
    · exact .inl himpostor
    obtain ⟨keys, hkeys, hnone, hsome⟩ := hs.exists_keyRing hheld himpostor
    refine .inr ⟨keys, hkeys, ?_⟩
    intro x hx hcut level
    refine ⟨?_, fun hnot => hs.decrypt_of_not_held hx hcut ((hnone _).mpr hnot) level⟩
    rintro ⟨g, hg, hid⟩
    -- The key on the ring is that of the message, since no other has its name.
    obtain ⟨key, hkey⟩ : ∃ key, keys x.messageKey.id = some key := by
      rw [← Option.ne_none_iff_exists']
      intro hmissing
      exact (hnone _).mp hmissing g hg hid
    obtain ⟨g', hg', hid', k, hk, rfl⟩ := hsome _ key hkey
    have hsame : g'.messageKey = x.messageKey :=
      List.inj_on_of_nodup_map hnames (hs.granted g' (hheld hg')).1 (hs.posts x hx).1 hid'
    rw [hsame] at hk
    exact hs.decrypt_of_held hx hcut hk hkey level

/-- Some hour of January 2024, with random bytes of its own. -/
def exampleHour (hour : UInt8) : Environment where
  clock :=
    { ns := (1704067200 + hour.toNat * 3600 : Nat) * nsPerSecond
      le_ns := by
        simp only [nsPerSecond]
        omega
      ns_lt := by
        have hlt := hour.toNat_lt
        simp only [nsPerSecond]
        omega }
  source i := hour + UInt8.ofNat i
  drawn := 0

theorem exampleHour_sinceEpoch (hour : UInt8) : 0 ≤ (exampleHour hour).clock.ns :=
  Int.natCast_nonneg _

def exampleText (content : String) : Message :=
  { Message.exampleMessage with content := content }

def exampleNewKey : Key := .ofSecret .xchacha20poly1305 ⟨List.replicate keySize 2, rfl⟩

/-- The steps of an example, with the message keys and the client key that they come upon: the
    message key of a room is renewed three times, and a message is sent under each. The first
    key is granted to an account, which then changes its client key; the second one is stored
    and read back like the room, and is granted to a passcode when there is a third one. -/
def exampleSteps (m₁ m₂ m₃ : MessageKey) (c : Key) : List Step :=
  [.operate (.renewMessageKey (exampleHour 1)),
    .send (exampleHour 2) (exampleText "first"),
    .join (exampleHour 3) "correct horse" .standard,
    .grant (exampleHour 4) m₁ (.member 0),
    .operateMember 0 (.replaceClientKey c exampleNewKey),
    .operate (.renewMessageKey (exampleHour 5)),
    .send (exampleHour 6) (exampleText "second"),
    .operate .reload,
    .reloadKey m₂,
    .operate (.renewMessageKey (exampleHour 7)),
    .send (exampleHour 8) (exampleText "third"),
    .grant (exampleHour 9) m₂ (.passcode "open sesame" .standard),
    .grant (exampleHour 10) m₃ (.member 0)]

theorem exampleSteps_sinceEpoch (m₁ m₂ m₃ : MessageKey) (c : Key) :
    ∀ step ∈ exampleSteps m₁ m₂ m₃ c, step.SinceEpoch := by
  simp only [exampleSteps, List.forall_mem_cons, Step.SinceEpoch, Operation.SinceEpoch,
    exampleHour_sinceEpoch, true_and]
  exact List.forall_mem_nil _

/-- With the grants of the first two message keys the first two messages are read, and the
    third one is denied, although its key has been granted too. -/
theorem history_stays_readable_example :
    let kms : LocalKms := ⟨exampleKey, rfl⟩
    ∃ r₀ m₁ m₂ m₃ c s g held x₁ x₂ x₃ keys,
      ((create "lobby").run kms.responder (exampleHour 0)).result = .ok r₀ ∧
      History.run kms (exampleSteps m₁ m₂ m₃ c) (.ofRoom r₀) = some s ∧
      s.issued = [m₃, m₂, m₁] ∧ (s.issued.map MessageKey.id).Nodup ∧
      s.granted = g :: held ∧ held.map KeyGrant.messageKey = [m₂, m₁] ∧
      s.posts = [x₃, x₂, x₁] ∧ keyRing s.members held = .ok keys ∧
      (x₁.encrypted.decrypt keys .general).result
        = .ok { exampleText "first" with encryptionKeyId := some (.v1 m₁.id) } ∧
      (x₂.encrypted.decrypt keys .general).result
        = .ok { exampleText "second" with encryptionKeyId := some (.v1 m₂.id) } ∧
      (x₃.encrypted.decrypt keys .general).result = .error .accessDenied := by
  intro kms
  obtain ⟨r₀, hcreate, hhistories⟩ := history_stays_readable kms (exampleHour 0) "lobby"
  obtain ⟨r, managerKey, secret, hcreated, -, -, hroom⟩ := exists_create kms (exampleHour 0) "lobby"
  obtain rfl : r₀ = r := Except.ok.inj (hcreate.symm.trans hcreated)
  have h₀ : Kept kms (.ofRoom r₀) := .ofRoom hroom rfl (messageKey_of_create hcreate)
  -- The first message key: a message, and a grant to an account, which then changes.
  obtain ⟨m₁, hid₁, hstep₁⟩ := Step.exists_apply_renewMessageKey kms (.ofRoom r₀) (exampleHour 1)
  let r₁ : Room := { r₀ with messageKey := some m₁ }
  let s₁ : History := ⟨r₁, [m₁], [m₁], [], [], []⟩
  have h₁ : Kept kms s₁ := h₀.apply hstep₁ (exampleHour_sinceEpoch 1)
  obtain ⟨sent₁, hstep₂⟩ := h₁.exists_apply_send rfl (exampleHour 2) (exampleText "first")
  let x₁ : Post := ⟨exampleText "first", m₁, sent₁⟩
  let s₂ : History := ⟨r₁, [m₁], [m₁], [x₁], [], []⟩
  have h₂ : Kept kms s₂ := h₁.apply hstep₂ trivial
  obtain ⟨a, c, hstep₃⟩ :=
    Step.exists_apply_join kms s₂ (exampleHour 3) "correct horse" .standard
  let joined : Member := ⟨(a, c), [], a, c⟩
  let s₃ : History := ⟨r₁, [m₁], [m₁], [x₁], [joined], []⟩
  have h₃ : Kept kms s₃ := h₂.apply hstep₃ trivial
  have hjoined : (Recipient.member 0).IsPresent s₃.members := Nat.zero_lt_one
  obtain ⟨capability₁, hstep₄⟩ :=
    h₃.exists_apply_grant (List.mem_singleton_self m₁) hjoined (exampleHour 4)
  let g₁ : KeyGrant := ⟨m₁, .member 0, capability₁⟩
  let s₄ : History := ⟨r₁, [m₁], [m₁], [x₁], [joined], [g₁]⟩
  have h₄ : Kept kms s₄ := h₃.apply hstep₄ trivial
  obtain ⟨⟨kek, pair, hk⟩, -⟩ := h₄.members joined (List.mem_singleton_self joined)
  obtain ⟨a', hreplace, -⟩ := hk.exists_replaceClientKey (rfl : exampleNewKey.isUsable = true)
  let x : Member := ⟨(a, c), [.replaceClientKey c exampleNewKey], a', exampleNewKey⟩
  let s₅ : History := ⟨r₁, [m₁], [m₁], [x₁], [x], [g₁]⟩
  have hstep₅ : (Step.operateMember 0 (.replaceClientKey c exampleNewKey)).apply kms s₄ = some s₅ :=
    Step.apply_operateMember_eq_some_iff.mpr ⟨joined, a', exampleNewKey, rfl, hreplace, rfl⟩
  have h₅ : Kept kms s₅ := h₄.apply hstep₅ trivial
  -- The second message key: a message, and both room and key are stored.
  obtain ⟨m₂, hid₂, hstep₆⟩ := Step.exists_apply_renewMessageKey kms s₅ (exampleHour 5)
  let r₂ : Room := { r₀ with messageKey := some m₂ }
  let s₆ : History := ⟨r₂, [m₂, m₁], [m₂, m₁], [x₁], [x], [g₁]⟩
  have h₆ : Kept kms s₆ := h₅.apply hstep₆ (exampleHour_sinceEpoch 5)
  obtain ⟨sent₂, hstep₇⟩ := h₆.exists_apply_send rfl (exampleHour 6) (exampleText "second")
  let x₂ : Post := ⟨exampleText "second", m₂, sent₂⟩
  let s₇ : History := ⟨r₂, [m₂, m₁], [m₂, m₁], [x₂, x₁], [x], [g₁]⟩
  have h₇ : Kept kms s₇ := h₆.apply hstep₇ trivial
  have hstep₈ : (Step.operate .reload).apply kms s₇ = some s₇ := h₇.apply_reload
  have hstep₉ := h₇.apply_reloadKey (List.mem_cons_self : m₂ ∈ s₇.copies)
  let s₉ : History := ⟨r₂, [m₂, m₁], [m₂, m₂, m₁], [x₂, x₁], [x], [g₁]⟩
  have h₉ : Kept kms s₉ := h₇.apply hstep₉ trivial
  -- The third message key: a message, and grants of the second and of the third.
  obtain ⟨m₃, hid₃, hstep₁₀⟩ := Step.exists_apply_renewMessageKey kms s₉ (exampleHour 7)
  let r₃ : Room := { r₀ with messageKey := some m₃ }
  let s₁₀ : History := ⟨r₃, [m₃, m₂, m₁], [m₃, m₂, m₂, m₁], [x₂, x₁], [x], [g₁]⟩
  have h₁₀ : Kept kms s₁₀ := h₉.apply hstep₁₀ (exampleHour_sinceEpoch 7)
  obtain ⟨sent₃, hstep₁₁⟩ := h₁₀.exists_apply_send rfl (exampleHour 8) (exampleText "third")
  let x₃ : Post := ⟨exampleText "third", m₃, sent₃⟩
  let s₁₁ : History := ⟨r₃, [m₃, m₂, m₁], [m₃, m₂, m₂, m₁], [x₃, x₂, x₁], [x], [g₁]⟩
  have h₁₁ : Kept kms s₁₁ := h₁₀.apply hstep₁₁ trivial
  have hcopy₂ : m₂ ∈ s₁₁.copies := List.mem_cons_of_mem _ List.mem_cons_self
  have hguest : (Recipient.passcode "open sesame" .standard).IsPresent s₁₁.members := trivial
  obtain ⟨capability₂, hstep₁₂⟩ := h₁₁.exists_apply_grant hcopy₂ hguest (exampleHour 9)
  let g₂ : KeyGrant := ⟨m₂, .passcode "open sesame" .standard, capability₂⟩
  let s₁₂ : History := ⟨r₃, [m₃, m₂, m₁], [m₃, m₂, m₂, m₁], [x₃, x₂, x₁], [x], [g₂, g₁]⟩
  have h₁₂ : Kept kms s₁₂ := h₁₁.apply hstep₁₂ trivial
  have hcopy₃ : m₃ ∈ s₁₂.copies := List.mem_cons_self
  have hmember : (Recipient.member 0).IsPresent s₁₂.members := Nat.zero_lt_one
  obtain ⟨capability₃, hstep₁₃⟩ := h₁₂.exists_apply_grant hcopy₃ hmember (exampleHour 10)
  let g₃ : KeyGrant := ⟨m₃, .member 0, capability₃⟩
  let s : History := ⟨r₃, [m₃, m₂, m₁], [m₃, m₂, m₂, m₁], [x₃, x₂, x₁], [x], [g₃, g₂, g₁]⟩
  have hrun : History.run kms (exampleSteps m₁ m₂ m₃ c) (.ofRoom r₀) = some s :=
    (History.run_cons hstep₁ _).trans <| (History.run_cons hstep₂ _).trans <|
    (History.run_cons hstep₃ _).trans <| (History.run_cons hstep₄ _).trans <|
    (History.run_cons hstep₅ _).trans <| (History.run_cons hstep₆ _).trans <|
    (History.run_cons hstep₇ _).trans <| (History.run_cons hstep₈ _).trans <|
    (History.run_cons hstep₉ _).trans <| (History.run_cons hstep₁₀ _).trans <|
    (History.run_cons hstep₁₁ _).trans <| (History.run_cons hstep₁₂ _).trans <|
    History.run_cons hstep₁₃ _
  have hnames : ([m₃, m₂, m₁].map MessageKey.id).Nodup := by
    rw [List.map_cons, List.map_cons, List.map_singleton, hid₁, hid₂, hid₃]
    decide +kernel
  obtain ⟨-, -, -, hreads⟩ := hhistories _ s (exampleSteps_sinceEpoch m₁ m₂ m₃ c) hrun
  have hpresents : Account.PresentsClientKey kms x.operations x.origin :=
    Account.presentsClientKey_replaceClientKey fun _ _ => trivial
  have hnobody : ¬ ∃ g ∈ [g₂, g₁], g.MeetsImpostor kms s.members := by
    rintro ⟨g, hg, number, y, hnumber, hy, hmet⟩
    obtain rfl | hg := List.mem_cons.mp hg
    · cases hnumber
    · obtain rfl := List.mem_singleton.mp hg
      cases hnumber
      obtain rfl := Option.some.inj hy
      exact Account.not_meetsImpostor hpresents hmet
  obtain himpostor | ⟨keys, hkeys, hshown⟩ := hreads hnames [g₂, g₁] (List.subset_cons_self _ _)
  · exact absurd himpostor hnobody
  have hpost₁ : x₁ ∈ s.posts := List.mem_cons_of_mem _ (List.mem_cons_of_mem _ List.mem_cons_self)
  have hpost₂ : x₂ ∈ s.posts := List.mem_cons_of_mem _ List.mem_cons_self
  have hpost₃ : x₃ ∈ s.posts := List.mem_cons_self
  have hwithout : ∀ g ∈ [g₂, g₁], g.messageKey.id ≠ m₃.id := by
    intro g hg hsame
    have hmem : g.messageKey.id ∈ [g₂, g₁].map (·.messageKey.id) := List.mem_map_of_mem hg
    exact (List.nodup_cons.mp hnames).1 (hsame ▸ hmem)
  exact ⟨r₀, m₁, m₂, m₃, c, s, g₃, [g₂, g₁], x₁, x₂, x₃, keys, hcreate, hrun, rfl, hnames, rfl, rfl,
    rfl, hkeys,
    (hshown x₁ hpost₁ rfl .general).1 ⟨g₁, List.mem_cons_of_mem _ List.mem_cons_self, rfl⟩,
    (hshown x₂ hpost₂ rfl .general).1 ⟨g₂, List.mem_cons_self, rfl⟩,
    (hshown x₃ hpost₃ rfl .general).2 hwithout⟩

end Room

end ChatKeys
