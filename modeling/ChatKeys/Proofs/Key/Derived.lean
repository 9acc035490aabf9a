/-
  ChatKeys.Proofs.Key.Derived

  What a checked code lets pass, and which passcodes a key is derived from.

    * `Key.result_checked_of_mac`, `Key.result_checked_eq_ok_iff` — an answer that is
      given on the word of a code: it is given exactly if the key has this code, and
      refused otherwise;
    * `Key.checked_of_ok`, `Key.checked_of_mac_ne`, `Key.checked_of_isEncrypted` — what
      all of the answer is then, with what it reports;
    * `Key.SamePasscode` — two passcodes that the same key is derived from, because
      HMAC takes them for the same key or because they collide.
-/
import ChatKeys.Audit.Logged
import ChatKeys.Key.Derived
import ChatKeys.Proofs.Crypto.Passwords
import ChatKeys.Proofs.Key.Content
import ChatKeys.Proofs.Results

namespace ChatKeys.Key

/-! ## Codes -/

/-- Of a key of the cipher the code depends on the secret alone. -/
theorem mac_congr {key : KeyBytes} {k k' : Key} (h : k.cipherSecret = .ok key)
    (h' : k'.cipherSecret = .ok key) (message : Bytes) : k.mac message = k'.mac message := by
  rw [mac, mac, secret_of_cipherSecret h, secret_of_cipherSecret h']

theorem mac_of_secret {k : Key} {secret : KeyBytes} (h : k.secret = .ok secret) (message : Bytes) :
    k.mac message = .ok (Hmac.mac secret.bytes message) := by
  rw [mac, h]
  rfl

theorem mac_of_isEncrypted {k : Key} (h : k.isEncrypted = true) (message : Bytes) :
    k.mac message = .error .mustBeDecrypted := by
  rw [isEncrypted] at h
  rw [mac, secret]
  cases hk : k.material with
  | plain secret => rw [hk] at h; cases h
  | wrapped ciphertext => rfl

theorem checkMac_of_mac {k : Key} {message own : Bytes} (h : k.mac message = .ok own)
    (code : Bytes) : k.checkMac message code = .ok (decide (own = code)) := by
  rw [checkMac, h]
  rfl

/-- A code is confirmed by the key that has it. -/
theorem checkMac_eq_ok_true_iff {k : Key} {message code : Bytes} :
    k.checkMac message code = .ok true ↔ k.mac message = .ok code := by
  cases hmac : k.mac message with
  | error cause => rw [checkMac, hmac]; exact iff_of_false nofun nofun
  | ok own => rw [checkMac_of_mac hmac, Except.ok.injEq, decide_eq_true_iff, Except.ok.injEq]

section

variable {α : Type} {k : Key} {message code : Bytes} {refusal : Event} {x : Except Error α}

/-- The answer that is given if a key has the code asked for, and refused otherwise. -/
def checked (k : Key) (message code : Bytes) (refusal : Event) (x : Except Error α) : Logged α := do
  if ← k.checkMac message code then x else .refuse refusal .accessDenied

/-- The code that the key has decides. -/
theorem result_checked_of_mac {own : Bytes} (h : k.mac message = .ok own) :
    (k.checked message code refusal x).result =
      if own = code then x else .error .accessDenied := by
  rw [checked, checkMac_of_mac h]
  by_cases hcode : own = code
  · rw [decide_eq_true hcode, if_pos hcode]
    rfl
  · rw [decide_eq_false hcode, if_neg hcode]
    rfl

theorem result_checked_eq_ok_iff {v : α} :
    (k.checked message code refusal x).result = .ok v ↔ k.mac message = .ok code ∧ x = .ok v := by
  cases hmac : k.mac message with
  | error cause =>
    -- A key without a code is an error, whatever is asked.
    have hcheck : k.checkMac message code = .error cause := by
      rw [checkMac, hmac]
      rfl
    rw [checked, hcheck]
    constructor
    · rintro ⟨⟩
    · rintro ⟨⟨⟩, -⟩
  | ok own =>
    rw [result_checked_of_mac hmac, Except.ok.injEq]
    by_cases hcode : own = code
    · rw [if_pos hcode]
      simp only [hcode, true_and]
    · rw [if_neg hcode]
      simp only [hcode, false_and, reduceCtorEq]

/-- A key with another code is refused, whatever it asked for. -/
theorem checked_of_mac_ne {own : Bytes} (h : k.mac message = .ok own) (hne : own ≠ code) :
    k.checked message code refusal x = .refuse refusal .accessDenied := by
  rw [checked, checkMac_of_mac h, decide_eq_false hne]
  rfl

/-- A wrapped key has no code, and no question is answered. -/
theorem checked_of_isEncrypted (h : k.isEncrypted = true) :
    k.checked message code refusal x = .ofExcept (.error (.keyState .mustBeDecrypted)) := by
  rw [checked, checkMac, mac_of_isEncrypted h]
  rfl

/-- Nothing but the refusal is reported. -/
theorem eq_of_mem_events_checked {event : Event}
    (h : event ∈ (k.checked message code refusal x).events) : event = refusal := by
  rw [checked] at h
  cases hcheck : k.checkMac message code with
  | error cause =>
    rw [hcheck] at h
    cases h
  | ok right =>
    rw [hcheck] at h
    cases right with
    | true => cases h
    | false => exact List.mem_singleton.mp h

/-- Where the answer is given, nothing is reported. -/
theorem events_checked_of_ok {v : α} (h : (k.checked message code refusal x).result = .ok v) :
    (k.checked message code refusal x).events = [] := by
  rw [checked] at h ⊢
  cases hcheck : k.checkMac message code with
  | error cause => rfl
  | ok right =>
    rw [hcheck] at h
    cases right with
    | true => rfl
    | false => cases h

/-- The answer of the key with the code is the answer asked for, and nothing else. -/
theorem checked_of_ok {v : α} (h : (k.checked message code refusal x).result = .ok v) :
    k.checked message code refusal x = pure v := by
  have hevents := events_checked_of_ok h
  cases hx : k.checked message code refusal x with
  | mk events result =>
    rw [hx] at h hevents
    cases h
    cases hevents
    rfl

end

/-! ## Passcodes -/

/-- Two passcodes that the same key is derived from: as keys of HMAC they are the
    same, or the derivation happens to meet. -/
def SamePasscode (salt : Bytes) (kdf : KdfParams) (passcode other : Bytes) : Prop :=
  Hmac.blockKey passcode = Hmac.blockKey other ∨
    Pbkdf2.Collision passcode other salt kdf.rounds.toNat

variable {passcode other salt : Bytes} {kdf : KdfParams}

/-- Zero bytes behind a passcode do not count, as long as a block has room for them. -/
theorem samePasscode_append_zeros {n : Nat} (h : passcode.length + n ≤ Sha256.blockSize) :
    SamePasscode salt kdf passcode (passcode ++ List.replicate n 0) :=
  .inl (Hmac.blockKey_append_zeros h).symm

theorem ofPasscode_of_same (h : SamePasscode salt kdf passcode other) :
    ofPasscode other salt kdf = ofPasscode passcode salt kdf := by
  have hkey : Pbkdf2.key passcode salt kdf.rounds.toNat = Pbkdf2.key other salt kdf.rounds.toNat :=
    Pbkdf2.key_eq_iff.mpr h
  simp only [ofPasscode, passcodeSecret, hkey]

theorem passcodeSecret_ne (h : ¬ SamePasscode salt kdf passcode other) :
    (passcodeSecret passcode salt kdf).bytes ≠ (passcodeSecret other salt kdf).bytes :=
  fun hkey => h (Pbkdf2.key_eq_iff.mp hkey)

end ChatKeys.Key
