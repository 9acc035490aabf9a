/-
  ChatKeys.Proofs.Service.Miscounts

  What each operation makes of a wrong number of random bytes.

    * `checked_*` — a vector of a wrong length is refused when something is wrapped or
      sealed with it, so every grant and every renewal of a manager key ends with an error;
    * `leastDraw` — the bytes of a new account or room are cut into parts, and too few of
      them abandon the operation; an account refuses every other wrong number;
    * `withKept` — a room's nonce, a message key's nonce and the secret of a reset are kept
      as they come, however many bytes that are.

  `ServiceOperation.miscounted_draw` says this of all operations, with any service.
-/
import ChatKeys.Proofs.Capability
import ChatKeys.Proofs.Service.Draws
import ChatKeys.Proofs.Service.Failures
import ChatKeys.Service.Faults

namespace ChatKeys

open Dialogue (Checked Refuses)

/-! ## Lengths that are checked -/

theorem KeyPair.length_iv_of_wrap {p q : KeyPair} {outer : Key} (h : p.wrap outer = .ok q) :
    p.iv.length = ivSize := by
  obtain ⟨key, hkey, -⟩ := KeyPair.wrap_eq_ok_iff.mp h
  obtain ⟨_, _, -, -, hiv, -⟩ := Key.wrap_eq_ok_iff.mp hkey
  exact hiv

theorem Capability.length_iv_of_issue {recipient k : Key} {iv : Bytes} {c : Capability}
    (h : issue recipient iv k = .ok c) : iv.length = ivSize := by
  obtain ⟨_, _, -, hiv, -⟩ := issue_eq_ok_iff.mp h
  exact hiv

/-! ## Operations that refuse -/

/-- Sealing with a vector that is drawn is checked. -/
theorem Capability.checked_issue (recipient k : Key) (step : String) :
    (Dialogue.nonce ivSize step >>= fun iv =>
      (liftM (Capability.issue recipient iv k) : Dialogue Capability)).Checked := by
  refine Checked.nonce_bind (fun iv hiv => ?_) fun iv => .of_follows (.liftM _) nofun
  exact Dialogue.refuses_liftM fun c hc => hiv (Capability.length_iv_of_issue hc)

namespace Account

theorem checked_grant (a : Account) (k : Key) : (a.grant k).Checked :=
  Checked.bind (.of_follows (.askUnwrap _) (by decide)) fun kek => Capability.checked_issue kek k _

theorem checked_appointStaff (a : Account) (credential : Key) :
    (a.appointStaff credential).Checked :=
  Checked.bind (a.checked_grant credential) fun _ => .report (.finish _)

/-- A new account needs bytes for its nonce, and refuses a wrong number of bytes for its
    secret. -/
theorem refuses_create (password : String) (kdf : KdfParams) {σ : Type} {r : Responder σ}
    {s later : σ} {b : Bytes}
    (hreply : r.nonce (nonceSize + KeyPair.privateKeySize) s = (.ok b, later))
    (hlength : b.length ≠ nonceSize + KeyPair.privateKeySize) :
    (b.length < nonceSize → ((create password kdf).run r s).result
        = .error (.shortNonce nonceSize b.length)) ∧
      (nonceSize ≤ b.length →
        ∃ e, ((create password kdf).run r s).result = .error (.error e)) := by
  rw [create, Dialogue.run_nonce_bind hreply]
  constructor
  · intro hshort
    rw [Dialogue.cut_bind_of_lt hshort]
    rfl
  · intro hlong
    rw [Dialogue.cut_bind hlong]
    have hsecret : ∀ p, KeyPair.ofSecret (b.drop nonceSize) ≠ .ok p := by
      intro p hp
      obtain ⟨secret, hsecret, -⟩ := KeyPair.ofSecret_eq_ok_iff.mp hp
      have hrest := secret.length_bytes
      rw [hsecret, List.length_drop] at hrest
      simp only [KeyPair.privateKeySize] at hlength
      omega
    refine Refuses.bind (Dialogue.answers_generate _ _) (fun systemKey => ?_) r later
    refine Refuses.bind (Dialogue.answers_unwrap _) fun kek => ?_
    exact Refuses.bind_left (Dialogue.refuses_liftM hsecret) _

end Account

theorem MessageKey.checked_grantTo (m : MessageKey) (a : Account) : (m.grantTo a).Checked :=
  Checked.bind (.of_follows (.askUnwrap _) (by decide)) a.checked_grant

theorem MessageKey.checked_grantToPasscode (m : MessageKey) (passcode : String) (kdf : KdfParams) :
    (m.grantToPasscode passcode kdf).Checked :=
  Checked.bind (.of_follows (.askUnwrap _) (by decide)) fun key =>
    Capability.checked_issue _ key _

namespace Room

theorem checked_appointManager (r : Room) (a : Account) : (r.appointManager a).Checked := by
  refine Checked.bind (.of_follows (.askUnwrap _) (by decide)) fun managerKey => ?_
  exact Checked.bind (a.checked_grant managerKey) fun _ => .report (.finish _)

/-- The vector of a renewed manager key is refused when the pair is wrapped with it. -/
theorem checked_renewManagerKey (r : Room) : r.renewManagerKey.Checked := by
  refine Checked.bind (.of_follows r.follows_unlockThroughService (by decide)) fun pair => ?_
  refine Checked.nonce_bind (fun iv hiv => ?_) fun iv => ?_
  · refine Refuses.bind (Dialogue.answers_generate _ _) fun keyEncryptingKey => ?_
    refine Refuses.bind (Dialogue.answers_unwrap _) fun managerKey => ?_
    refine Refuses.bind_left (Dialogue.refuses_liftM fun keyPair hwrap => ?_) _
    exact hiv (KeyPair.length_iv_of_wrap hwrap)
  · refine Checked.bind (.of_follows (.askKey _ _) (by decide)) fun keyEncryptingKey => ?_
    refine Checked.bind (.of_follows (.askUnwrap _) (by decide)) fun managerKey => ?_
    refine Checked.bind (.of_follows (.liftM _) nofun) fun keyPair => ?_
    exact Checked.bind (.of_follows (.liftM _) nofun) fun mac => .report (.finish _)

end Room

/-! ## Operations that keep what they get -/

namespace MessageKey

def withNonce (nonce : Bytes) (m : MessageKey) : MessageKey := { m with nonce := nonce }

theorem keepsDraw_issue (room : String) :
    (issue room).KeepsDraw roomNonceSize 0 withNonce := by
  refine ⟨_, _, rfl, fun b => ((follows_issue room).behind_nonce b).drawless (by decide), ?_⟩
  intro b b' _ _ _ σ r s
  refine Dialogue.run_bind_map_right _ fun key s => ?_
  refine Dialogue.run_bind_map_right _ fun id s => ?_
  refine Dialogue.run_bind_map_right _ fun issuedAt s => ?_
  rfl

end MessageKey

namespace ResetRequest

def withSecret (key : Bytes) (q : ResetRequest) : ResetRequest := { q with key := key }

theorem keepsDraw_issue (account : Snowflake) (lifetime : Duration) :
    (issue account lifetime).KeepsDraw secretSize 0 withSecret := by
  refine ⟨_, _, rfl, fun b => ((follows_issue account lifetime).behind_nonce b).drawless nofun, ?_⟩
  intro b b' _ _ _ σ r s
  refine Dialogue.run_bind_map_right _ fun requestedAt s => ?_
  refine Dialogue.run_bind_map_right _ fun id s => ?_
  cases requestedAt.add? lifetime with
  | none => rfl
  | some expiresAt => rfl

end ResetRequest

namespace Room

def withNonce (nonce : Bytes) (r : Room) : Room := { r with nonce := nonce }

def withMessageKeyNonce (nonce : Bytes) (r : Room) : Room :=
  { r with messageKey := r.messageKey.map (MessageKey.withNonce nonce) }

theorem keepsDraw_renewMessageKey (r : Room) :
    r.renewMessageKey.KeepsDraw roomNonceSize 0 withMessageKeyNonce :=
  (MessageKey.keepsDraw_issue r.name).bind (fun _ => trivial) fun _ _ _ _ _ => rfl

/-- The bytes behind vector and secret are kept as the room's nonce. -/
theorem keepsDraw_create (name : String) :
    (create name).KeepsDraw (ivSize + KeyPair.privateKeySize + roomNonceSize)
      (ivSize + KeyPair.privateKeySize) withNonce := by
  refine ⟨_, _, rfl, fun b => ((follows_create name).behind_nonce b).drawless (by decide), ?_⟩
  intro b b' hb hb' htake σ r s
  have hiv : b.take ivSize = b'.take ivSize := by
    have h := congrArg (List.take ivSize) htake
    rwa [List.take_take, List.take_take, Nat.min_eq_left (Nat.le_add_right _ _)] at h
  have hsecret : (b.drop ivSize).take KeyPair.privateKeySize
      = (b'.drop ivSize).take KeyPair.privateKeySize := by
    have h := congrArg (List.drop ivSize) htake
    rwa [List.drop_take, List.drop_take, Nat.add_sub_cancel_left] at h
  have hbehind : ∀ c : Bytes, ivSize + KeyPair.privateKeySize ≤ c.length →
      KeyPair.privateKeySize ≤ (c.drop ivSize).length := by
    intro c hc
    rw [List.length_drop]
    omega
  rw [Dialogue.cut_bind (by omega), Dialogue.cut_bind (by omega)]
  simp only [Dialogue.cut_bind (hbehind b hb), Dialogue.cut_bind (hbehind b' hb'), hiv, hsecret]
  -- From here on the two differ in the nonce of the room that comes out.
  refine Dialogue.run_bind_map_right _ fun keyEncryptingKey s => ?_
  refine Dialogue.run_bind_map_right _ fun managerKey s => ?_
  refine Dialogue.run_bind_map_right _ fun pair s => ?_
  refine Dialogue.run_bind_map_right _ fun keyPair s => ?_
  refine Dialogue.run_bind_map_right _ fun mac s => ?_
  rw [← List.drop_drop]
  rfl

/-- Too few bytes for vector and secret abandon the creation of a room. -/
theorem run_create_of_lt {name : String} {σ : Type} {r : Responder σ} {s later : σ} {b : Bytes}
    (hreply : r.nonce (ivSize + KeyPair.privateKeySize + roomNonceSize) s = (.ok b, later))
    (h : b.length < ivSize + KeyPair.privateKeySize) :
    ∃ needed actual, ((create name).run r s).result = .error (.shortNonce needed actual) := by
  rw [create, Dialogue.run_nonce_bind hreply]
  by_cases hiv : ivSize ≤ b.length
  · have hsecret : (b.drop ivSize).length < KeyPair.privateKeySize := by
      rw [List.length_drop]
      omega
    rw [Dialogue.cut_bind hiv]
    simp only [Dialogue.cut_bind_of_lt hsecret]
    exact ⟨_, _, rfl⟩
  · rw [Dialogue.cut_bind_of_lt (Nat.not_le.mp hiv)]
    exact ⟨_, _, rfl⟩

end Room

/-! ## All operations -/

namespace ServiceOperation

/-- How many of the bytes that an operation draws it has to cut off. -/
def leastDraw : ServiceOperation → Nat
  | createAccount .. => Account.nonceSize
  | createRoom .. => ivSize + KeyPair.privateKeySize
  | _ => 0

/-- Whether the bytes behind those are kept as they come. -/
def keepsDraw : ServiceOperation → Bool
  | createRoom .. | renewMessageKey .. | issueMessageKey .. | issueReset .. => true
  | _ => false

/-- The value of an operation with other bytes kept in it. -/
def withKept : (op : ServiceOperation) → Bytes → op.Value → op.Value
  | createRoom _ => Room.withNonce
  | renewMessageKey _ => Room.withMessageKeyNonce
  | issueMessageKey _ => MessageKey.withNonce
  | issueReset _ _ => ResetRequest.withSecret
  | _ => fun _ value => value

/-- What an operation does when a service gives it some bytes, in a wrong number. -/
structure Miscounted (op : ServiceOperation) {σ : Type} (r : Responder σ) (s : σ) (b : Bytes) :
    Prop where
  /-- Too few bytes to be cut into their parts abandon it. -/
  abandoned : b.length < op.leastDraw →
    ∃ needed actual, (op.dialogue.run r s).result = .error (.shortNonce needed actual)
  /-- An operation that does not keep them refuses them. -/
  refused : op.leastDraw ≤ b.length → op.keepsDraw = false →
    ∃ e, (op.dialogue.run r s).result = .error (.error e)
  /-- An operation that does comes out as with the right number of them, up to the bytes
      that it keeps. -/
  kept : op.leastDraw ≤ b.length → op.keepsDraw = true →
    op.dialogue.run r s =
      (op.dialogue.run r.corrected s).map (op.withKept (b.drop op.leastDraw))

variable {op : ServiceOperation} {σ : Type} {r : Responder σ} {s : σ} {length : Nat} {b : Bytes}

theorem Miscounted.of_checked (h : op.dialogue.Checked) (hleast : op.leastDraw = 0)
    (hkeeps : op.keepsDraw = false) (hcall : .nonce length (.ok b) ∈ op.dialogue.calls r s)
    (hlength : b.length ≠ length) : op.Miscounted r s b where
  abandoned hshort := by
    rw [hleast] at hshort
    exact absurd hshort (Nat.not_lt_zero _)
  refused _ _ := h.refuses hcall hlength
  kept _ h := by
    rw [hkeeps] at h
    cases h

theorem Miscounted.of_keepsDraw {asked : Nat}
    (h : op.dialogue.KeepsDraw asked op.leastDraw op.withKept) (hleast : op.leastDraw = 0)
    (hkeeps : op.keepsDraw = true) (hcall : .nonce length (.ok b) ∈ op.dialogue.calls r s) :
    op.Miscounted r s b where
  abandoned hshort := by
    rw [hleast] at hshort
    exact absurd hshort (Nat.not_lt_zero _)
  refused _ h := by
    rw [hkeeps] at h
    cases h
  kept hb _ := h.run_eq (by rw [hleast]; exact Nat.zero_le _) hcall hb

/-- Any service may give an operation a wrong number of random bytes. Granting in every
    way, renewing a manager key and creating an account refuse them. Creating a room,
    issuing and renewing a message key, and issuing a reset do not notice: they come out
    as with the right number, and a room's nonce, a message key's nonce or a reset's
    secret is as long as the service made it. Where the bytes of a new account or room
    are too few to be cut into parts, the operation is abandoned. -/
theorem miscounted_draw (op : ServiceOperation) {σ : Type} (r : Responder σ) (s : σ)
    (length : Nat) (b : Bytes) (hcall : .nonce length (.ok b) ∈ op.dialogue.calls r s)
    (hlength : b.length ≠ length) : op.Miscounted r s b := by
  cases op with
  | createAccount password kdf =>
    have hdrawless := fun b => ((Account.follows_create password kdf).behind_nonce b).drawless
      (by decide)
    obtain ⟨rfl, hreply⟩ := Dialogue.nonce_eq_of_mem_calls hdrawless hcall
    obtain ⟨hshort, hlong⟩ := Account.refuses_create password kdf hreply hlength
    exact ⟨fun h => ⟨_, _, hshort h⟩, fun h _ => hlong h, nofun⟩
  | createRoom name =>
    have hdrawless := fun b => ((Room.follows_create name).behind_nonce b).drawless (by decide)
    obtain ⟨rfl, hreply⟩ := Dialogue.nonce_eq_of_mem_calls hdrawless hcall
    exact ⟨Room.run_create_of_lt hreply, nofun, fun h _ =>
      (Room.keepsDraw_create name).run_eq (Nat.le_add_right _ _) hcall h⟩
  | renewMessageKey room =>
    exact .of_keepsDraw room.keepsDraw_renewMessageKey rfl rfl hcall
  | issueMessageKey room =>
    exact .of_keepsDraw (MessageKey.keepsDraw_issue room) rfl rfl hcall
  | issueReset account lifetime =>
    exact .of_keepsDraw (ResetRequest.keepsDraw_issue account lifetime) rfl rfl hcall
  | grant a k => exact .of_checked (a.checked_grant k) rfl rfl hcall hlength
  | appointStaff a credential =>
    exact .of_checked (a.checked_appointStaff credential) rfl rfl hcall hlength
  | appointManager room a =>
    exact .of_checked (room.checked_appointManager a) rfl rfl hcall hlength
  | grantMessageKey m a => exact .of_checked (m.checked_grantTo a) rfl rfl hcall hlength
  | grantToPasscode m passcode kdf =>
    exact .of_checked (m.checked_grantToPasscode passcode kdf) rfl rfl hcall hlength
  | renewManagerKey room => exact .of_checked room.checked_renewManagerKey rfl rfl hcall hlength
  | resetPassword a id authorization password =>
    exact .of_checked (.of_follows (a.follows_resetPassword id authorization password) (by decide))
      rfl rfl hcall hlength
  | managerKey room =>
    exact .of_checked (.of_follows (.askUnwrap _) (by decide)) rfl rfl hcall hlength
  | unlockRoom room =>
    exact .of_checked (.of_follows room.follows_unlockThroughService (by decide)) rfl rfl
      hcall hlength
  | unlockMessageKey m =>
    exact .of_checked (.of_follows (.askUnwrap _) (by decide)) rfl rfl hcall hlength

/-- A service whose nonces are all of eight bytes, and which hands keys back as they were
    given. -/
def eightBytes : Responder (Counted Environment) :=
  Faults.applyTo { nonceLength := some 8, keepsWrapped := true }
    (⟨exampleKey, rfl⟩ : LocalKms).responder

/-- Before anything was asked of it. -/
def untouched : Counted Environment := ⟨0, ⟨.epoch, fun _ => 0, 0⟩⟩

/-- Eight bytes for a room, for the vector of a grant, and for a reset. -/
theorem miscounted_draw_example :
    let m : MessageKey := ⟨⟨"k1"⟩, .epoch, [], exampleKey⟩
    let b : Bytes := List.replicate 8 0
    (.nonce 80 (.ok b) ∈ (createRoom "lobby").dialogue.calls eightBytes untouched ∧
      b.length ≠ 80 ∧ ∃ needed actual, ((Room.create "lobby").run eightBytes untouched).result
        = .error (.shortNonce needed actual)) ∧
    (.nonce 24 (.ok b) ∈ (grantToPasscode m "open" ⟨1⟩).dialogue.calls eightBytes untouched ∧
      b.length ≠ 24 ∧ ∃ e, ((m.grantToPasscode "open" ⟨1⟩).run eightBytes untouched).result
        = .error (.error e)) ∧
    (.nonce 64 (.ok b) ∈ (issueReset ⟨7⟩ (.ofSeconds 60)).dialogue.calls eightBytes untouched ∧
      b.length ≠ 64 ∧
      (ResetRequest.issue ⟨7⟩ (.ofSeconds 60)).run eightBytes untouched =
        ((ResetRequest.issue ⟨7⟩ (.ofSeconds 60)).run eightBytes.corrected untouched).map
          (ResetRequest.withSecret b)) := by
  intro m b
  have hroom : .nonce 80 (.ok b) ∈ (createRoom "lobby").dialogue.calls eightBytes untouched :=
    List.mem_cons_self
  have hgrant :
      .nonce 24 (.ok b) ∈ (grantToPasscode m "open" ⟨1⟩).dialogue.calls eightBytes untouched :=
    List.mem_cons_of_mem _ List.mem_cons_self
  have hreset :
      .nonce 64 (.ok b) ∈ (issueReset ⟨7⟩ (.ofSeconds 60)).dialogue.calls eightBytes untouched :=
    List.mem_cons_self
  exact ⟨⟨hroom, by decide, (miscounted_draw _ _ _ _ _ hroom (by decide)).abandoned (by decide)⟩,
    ⟨hgrant, by decide,
      (miscounted_draw _ _ _ _ _ hgrant (by decide)).refused (Nat.zero_le _) rfl⟩,
    ⟨hreset, by decide, (miscounted_draw _ _ _ _ _ hreset (by decide)).kept (Nat.zero_le _) rfl⟩⟩

/-- Not every wrong number of bytes is refused: a reset is issued with a secret of eight
    bytes. -/
theorem not_miscounted_draw_refused :
    ¬ ∀ (op : ServiceOperation) {σ : Type} (r : Responder σ) (s : σ) (length : Nat) (b : Bytes),
      .nonce length (.ok b) ∈ op.dialogue.calls r s → b.length ≠ length →
        ∃ e, (op.dialogue.run r s).result = .error (.error e) := by
  intro hrefused
  have hcall : .nonce 64 (.ok (List.replicate 8 0)) ∈
      (issueReset ⟨7⟩ (.ofSeconds 60)).dialogue.calls eightBytes untouched := List.mem_cons_self
  obtain ⟨q, hq⟩ : ∃ q, ((ResetRequest.issue ⟨7⟩ (.ofSeconds 60)).run eightBytes untouched).result
      = .ok q := ⟨_, rfl⟩
  obtain ⟨e, he⟩ := hrefused (issueReset ⟨7⟩ (.ofSeconds 60)) eightBytes untouched 64 _ hcall
    (by decide)
  cases hq.symm.trans he

end ServiceOperation

end ChatKeys
